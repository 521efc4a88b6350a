import LocalPlay.Toml.Format
import LocalPlay.Toml.Plain.Document
import LocalPlay.Toml.Plain.Writing

set_option autoImplicit false

/-! # The plain format

A format that runs. It says no more than it must about what is wrong with a document. -/

namespace LocalPlay.Toml

instance plain : Format where
  write sections :=
    if ∀ s ∈ sections, s.Writable then .ok (Section.document sections)
    else .error "number out of range"
  read text :=
    match read? text with
    | some entries => .ok entries
    | none => .error "not a document"
  misfit _ := "not a setting"

end LocalPlay.Toml
