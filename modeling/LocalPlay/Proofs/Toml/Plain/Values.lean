import LocalPlay.Proofs.Text.Decimal
import LocalPlay.Proofs.Toml.Plain.QuotedText
import LocalPlay.Proofs.Toml.Standard
import LocalPlay.Toml.Plain.Statement

set_option autoImplicit false

/-! # Written values are read back

A numeral could be taken for the beginning of a date, for a number with a fraction or for one in
another base. The characters of a written numeral are digits, and that rules all of it out
(`ofWord?_digits`). -/

namespace LocalPlay.Toml

variable {rest : List Char}

/-! ## Words of digits -/

section Digits

variable {w : List Char}

theorem isDigit_digits (n : Nat) : ∀ c ∈ Text.digits n, isDigit c = true :=
  Text.forall_mem_digits (by decide) n

theorem ne_of_digits (digits : ∀ c ∈ w, isDigit c = true) {c : Char} (mem : c ∈ w) {d : Char}
    (other : isDigit d = false) : c ≠ d := by
  rintro rfl
  rw [digits c mem] at other
  cases other

theorem isDatetime_digits (digits : ∀ c ∈ w, isDigit c = true) :
    skipDate? w = none ∧ isDatetime w = false := by
  have noDate : skipDate? w = none := by
    unfold skipDate?
    split
    · exact absurd rfl (ne_of_digits digits (c := '-') (by simp) (by decide))
    · rfl
  have noTime : skipTime? w = none := by
    unfold skipTime?
    split
    · exact absurd rfl (ne_of_digits digits (c := ':') (by simp) (by decide))
    · rfl
  refine ⟨noDate, ?_⟩
  rw [isDatetime, noDate]
  simp only [noTime]
  rfl

theorem splitSign_digits (digits : ∀ c ∈ w, isDigit c = true) : splitSign w = (false, w) := by
  unfold splitSign
  split
  · exact absurd rfl (ne_of_digits digits (c := '-') (by simp) (by decide))
  · exact absurd rfl (ne_of_digits digits (c := '+') (by simp) (by decide))
  · rfl

theorem isFloat_digits (digits : ∀ c ∈ w, isDigit c = true) : isFloat w = false := by
  have noName : ¬ (w = ['i', 'n', 'f'] ∨ w = ['n', 'a', 'n']) := by
    rintro (rfl | rfl)
    · exact absurd (digits 'i' (by simp)) (by decide)
    · exact absurd (digits 'n' (by simp)) (by decide)
  have whole : w.takeWhile (fun c => isDigit c || c == '_') = w := by
    rw [List.takeWhile_eq_self_iff]
    intro c mem
    rw [digits c mem, Bool.true_or]
  have noFraction : floatParts? w = none := by
    simp only [floatParts?, whole, List.drop_length]
    cases decimalDigits? w with
    | none => rfl
    | some ds => rfl
  rw [isFloat, splitSign_digits digits]
  simp only [if_neg noName, noFraction]

theorem ungroup?_digits (digits : ∀ c ∈ w, isDigit c = true) (nonempty : w ≠ []) :
    ungroup? isDigit w = some w := by
  fun_induction ungroup? isDigit w with
  | case1 => exact absurd rfl nonempty
  | case2 c digit => rfl
  | case3 c other => exact absurd (digits c (by simp)) other
  | case4 c rest digit ih => exact absurd rfl (ne_of_digits digits (c := '_') (by simp) (by decide))
  | case5 c rest other => exact absurd (digits c (by simp)) other
  | case6 c d rest noLine digit ih =>
    rw [ih (fun e mem => digits e (List.mem_cons_of_mem _ mem)) (by simp)]
    rfl
  | case7 c d rest noLine other => exact absurd (digits c (by simp)) other

end Digits

/-- On decimal digits both readers of digits agree. -/
theorem ofDigits?_digits (n : Nat) : ofDigits? 10 (Text.digits n) = some n := by
  have same : ∀ c ∈ Text.digits n, Text.hexDigit? c = Text.decimalDigit? c :=
    Text.forall_mem_digits (by decide) n
  have agree (acc : Nat) (s : List Char) (same : ∀ c ∈ s, Text.hexDigit? c = Text.decimalDigit? c) :
      Text.ofDigitsFrom? 10 Text.hexDigit? acc s = Text.ofDigitsFrom? 10 Text.decimalDigit? acc s := by
    induction s generalizing acc with
    | nil => rfl
    | cons c s ih =>
      rw [List.forall_mem_cons] at same
      simp only [Text.ofDigitsFrom?, same.1]
      congr 1
      funext d
      exact ih _ same.2
  rw [ofDigits?, agree 0 _ same, Text.ofDigitsFrom?_digits]

theorem wholeNumber?_digits (n : Nat) : wholeNumber? (Text.digits n) = some (n : Int) := by
  have digits := isDigit_digits n
  have decimal : decimalDigits? (Text.digits n) = some (Text.digits n) := by
    rw [decimalDigits?, ungroup?_digits digits (Text.digits_ne_nil n), Option.filter_some_pos]
    simpa using Decidable.not_and_iff_or_not.1 (Text.no_leading_zero n)
  unfold wholeNumber?
  split
  · next same => exact absurd rfl (ne_of_digits digits (c := 'x') (same ▸ by simp) (by decide))
  · next same => exact absurd rfl (ne_of_digits digits (c := 'o') (same ▸ by simp) (by decide))
  · next same => exact absurd rfl (ne_of_digits digits (c := 'b') (same ▸ by simp) (by decide))
  · simp only [splitSign_digits digits, decimal, Option.bind_some, ofDigits?_digits]
    rfl

theorem inRange_of_lt {n : Nat} (small : n < numberLimit) : InRange n := by
  unfold numberLimit at small
  unfold InRange
  omega

/-- A written numeral is read as its number. -/
theorem ofWord?_digits {n : Nat} (small : n < numberLimit) :
    Scalar.ofWord? (Text.digits n) = some (.integer n) := by
  have digits := isDigit_digits n
  have noTrue : Text.digits n ≠ "true".toList := by
    intro same
    exact absurd (digits 't' (same ▸ by decide)) (by decide)
  have noFalse : Text.digits n ≠ "false".toList := by
    intro same
    exact absurd (digits 'f' (same ▸ by decide)) (by decide)
  rw [Scalar.ofWord?, if_neg noTrue, if_neg noFalse, (isDatetime_digits digits).2,
    isFloat_digits digits, wholeNumber?_digits, if_neg Bool.false_ne_true,
    if_neg Bool.false_ne_true, Option.bind_some, if_pos (inRange_of_lt small)]

/-! ## Words -/

theorem scalar?_word {word : List Char} {v : Scalar} (inside : ∀ c ∈ word, isWord c = true)
    (reads : Scalar.ofWord? word = some v) (noDate : isDate word = false)
    (stops : Stops isWord rest) : scalar? (word ++ rest) = some (v, rest) := by
  have taken : (word ++ rest).takeWhile isWord = word := takeWhile_append_of_stops inside stops
  simp only [scalar?, taken, List.drop_left, reads, Option.map_some, noDate, Bool.false_eq_true,
    if_false]

theorem isWord_of_isDigit {c : Char} (digit : isDigit c = true) : isWord c = true := by
  simp [isWord, digit]

theorem scalar?_digits {n : Nat} (small : n < numberLimit) (stops : Stops isWord rest) :
    scalar? (Text.digits n ++ rest) = some (.integer n, rest) := by
  have digits := isDigit_digits n
  refine scalar?_word (fun c mem => isWord_of_isDigit (digits c mem)) (ofWord?_digits small) ?_ stops
  rw [isDate, (isDatetime_digits digits).1]
  rfl

theorem scalar?_flag (b : Bool) (stops : Stops isWord rest) :
    scalar? ((Item.flag b).toChars ++ rest) = some (.boolean b, rest) := by
  cases b with
  | false => exact scalar?_word (List.all_eq_true.1 rfl) rfl rfl stops
  | true => exact scalar?_word (List.all_eq_true.1 rfl) rfl rfl stops

theorem stops_digits {p : Char → Bool} (others : ∀ d : Fin 10, p (Text.digitChar d) = false)
    (n : Nat) (rest : List Char) : Stops p (Text.digits n ++ rest) := by
  intro c head
  cases written : Text.digits n with
  | nil => exact absurd written (Text.digits_ne_nil n)
  | cons d ds =>
    rw [written] at head
    cases head
    have mem : c ∈ Text.digits n := written ▸ List.mem_cons_self
    exact Text.forall_mem_digits (P := fun c => p c = false) others n c mem

/-! ## Values -/

/-- Whether a value may go on with this character. -/
def isInner (c : Char) : Bool := isQuote c || isWord c

theorem simpleValue?_text (s : String) (stops : Stops isQuote rest) :
    simpleValue? (quotedText s.toList ++ rest) = some (.text s, rest) := by
  rw [simpleValue?, if_pos (head?_quotedText s.toList rest), quoted?_quotedText s.toList stops]
  simp only [Option.map_some, String.ofList_toList]

theorem simpleValue?_scalar {s : List Char} (stops : Stops isQuote s) :
    simpleValue? s = (scalar? s).map fun (v, rest) =>
      match v with
      | .integer n => (.integer n, rest)
      | .float => (.float, rest)
      | .boolean b => (.boolean b, rest)
      | .datetime => (.datetime, rest) := by
  refine if_neg ?_
  rintro (head | head)
  · exact absurd (stops _ head) (by decide)
  · exact absurd (stops _ head) (by decide)

/-- Whether a character begins a value that holds others. -/
def isOpening (c : Char) : Bool := c == '[' || c == '\x7b'

/-- A value that holds no others may be as deep as it likes. -/
theorem value?_simple (depth : Nat) {s : List Char} (stops : Stops isOpening s) :
    value? depth s = simpleValue? s := by
  cases depth with
  | zero =>
    refine if_neg ?_
    rintro (head | head)
    · exact absurd (stops _ head) (by decide)
    · exact absurd (stops _ head) (by decide)
  | succ depth =>
    unfold value?
    split
    · exact absurd (stops _ rfl) (by decide)
    · exact absurd (stops _ rfl) (by decide)
    · rfl

theorem value?_text (depth : Nat) (s : String) (stops : Stops isQuote rest) :
    value? depth (quotedText s.toList ++ rest) = some (.text s, rest) := by
  rw [value?_simple, simpleValue?_text s stops]
  intro c head
  rcases head?_quotedText s.toList rest with opens | opens
  · cases head.symm.trans opens
    rfl
  · cases head.symm.trans opens
    rfl

/-! ## Rows -/

section Rows

variable {item : Taker} {s start t : List Char} {v : Value}

theorem rowItems?_end (ends : skipLoose s = ']' :: rest) : rowItems? item s = some ([], rest) := by
  unfold rowItems?
  rw [ends]
  rfl

/-- What stands where a value of a row may begin is taken as one, if no bracket ends the row. It is the
    last one if a bracket follows. -/
theorem rowItems?_last (begins : skipLoose s = start) (more : Stops (· == ']') start)
    (reads : item start = some (v, t)) (ends : skipLoose t = ']' :: rest) :
    rowItems? item s = some ([v], rest) := by
  rw [rowItems?, begins]
  split
  · cases stops_cons.1 more
  · simp only [reads, ends]

/-- If a comma follows, the row goes on. -/
theorem rowItems?_comma (begins : skipLoose s = start) (more : Stops (· == ']') start)
    (reads : item start = some (v, t)) (goesOn : skipLoose t = ',' :: rest)
    (shorter : rest.length < s.length) :
    rowItems? item s = (rowItems? item rest).map fun (vs, u) => (v :: vs, u) := by
  rw [rowItems?, begins]
  split
  · cases stops_cons.1 more
  · simp only [reads, goesOn, if_pos shorter]

/-- One of several texts of a row, on a line of its own. -/
def rowLine (s : String) : List Char :=
  [' ', ' ', ' ', ' '] ++ quotedText s.toList ++ [',', '\n']

theorem stops_quotedText {p : Char → Bool} (noQuote : p quote = false)
    (noApostrophe : p apostrophe = false) (s rest : List Char) :
    Stops p (quotedText s ++ rest) := by
  intro c head
  rcases head?_quotedText s rest with opens | opens
  · cases head.symm.trans opens
    exact noQuote
  · cases head.symm.trans opens
    exact noApostrophe

theorem skipLoose_quotedText (s rest : List Char) :
    skipLoose (quotedText s ++ rest) = quotedText s ++ rest :=
  skipLoose_of_stops (stops_quotedText (by decide) (by decide) s rest)

theorem skipLoose_comma (t : List Char) : skipLoose (',' :: t) = ',' :: t :=
  skipLoose_of_stops (stops_cons.2 rfl)

theorem skipLoose_bracket (t : List Char) : skipLoose (']' :: t) = ']' :: t :=
  skipLoose_of_stops (stops_cons.2 rfl)

/-- The texts of a row are taken line by line. -/
theorem rowItems?_lines (depth : Nat) (ss : List String) (rest : List Char) :
    rowItems? (value? depth) ('\n' :: (ss.flatMap rowLine ++ ']' :: rest))
      = some (ss.map Value.text, rest) := by
  induction ss with
  | nil =>
    refine rowItems?_end ?_
    rw [skipLoose_newline, List.flatMap_nil, List.nil_append, skipLoose_bracket]
  | cons s ss ih =>
    let later := '\n' :: (ss.flatMap rowLine ++ ']' :: rest)
    have shape : (s :: ss).flatMap rowLine ++ ']' :: rest
        = [' ', ' ', ' ', ' '] ++ (quotedText s.toList ++ ',' :: later) := by
      simp [rowLine, later]
    have begins : skipLoose ('\n' :: ([' ', ' ', ' ', ' '] ++ (quotedText s.toList ++ ',' :: later)))
        = quotedText s.toList ++ ',' :: later := by
      simp [skipLoose_quotedText]
    have shorter : later.length
        < ('\n' :: ([' ', ' ', ' ', ' '] ++ (quotedText s.toList ++ ',' :: later))).length := by
      simp
      omega
    rw [shape, rowItems?_comma begins (stops_quotedText rfl rfl s.toList _)
      (value?_text depth s (stops_cons.2 rfl)) (skipLoose_comma later) shorter, ih]
    rfl

end Rows

theorem value?_texts (depth : Nat) (ss : List String) (rest : List Char) :
    value? (depth + 1) (rowText ss ++ rest) = some (.array (ss.map .text), rest) := by
  have taken {s : List Char}
      (reads : rowItems? (value? depth) (s ++ rest) = some (ss.map Value.text, rest)) :
      value? (depth + 1) ('[' :: s ++ rest) = some (.array (ss.map .text), rest) := by
    show (rowItems? (value? depth) (s ++ rest)).map (fun (vs, u) => (Value.array vs, u)) = _
    rw [reads]
    rfl
  match ss with
  | [] => exact taken (rowItems?_end (skipLoose_bracket rest))
  | [s] =>
    refine taken ?_
    have shape : quotedText s.toList ++ [']'] ++ rest = quotedText s.toList ++ ']' :: rest := by
      rw [List.append_assoc, List.singleton_append]
    have read := rowItems?_last (skipLoose_quotedText s.toList (']' :: rest))
      (stops_quotedText rfl rfl s.toList _) (value?_text depth s (stops_cons.2 rfl))
      (skipLoose_bracket rest)
    rw [← shape] at read
    exact read
  | s :: s' :: ss =>
    refine taken ?_
    have read := rowItems?_lines depth (s :: s' :: ss) rest
    have shape : '\n' :: (s :: s' :: ss).flatMap rowLine ++ [']'] ++ rest
        = '\n' :: ((s :: s' :: ss).flatMap rowLine ++ ']' :: rest) := by
      rw [List.append_assoc, List.singleton_append, List.cons_append]
    rw [← shape] at read
    exact read

theorem Item.stops_toChars (item : Item) (rest : List Char) :
    Stops isSpace (item.toChars ++ rest) := by
  cases item with
  | text s => exact stops_quotedText rfl rfl s.toList rest
  | number n => exact stops_digits (by decide) n rest
  | flag b =>
    cases b with
    | false => exact stops_cons.2 rfl
    | true => exact stops_cons.2 rfl
  | texts ss =>
    match ss with
    | [] => exact stops_cons.2 rfl
    | [s] => exact stops_cons.2 rfl
    | s :: s' :: ss => exact stops_cons.2 rfl

/-- **A written value is read back.** -/
theorem value?_toChars (depth : Nat) {item : Item} (writable : item.Writable)
    (stops : Stops isInner rest) :
    value? (depth + 1) (item.toChars ++ rest) = some (item.value, rest) := by
  have noQuote : Stops isQuote rest := stops.mono fun c holds => by simp [isInner, holds]
  have noWord : Stops isWord rest := stops.mono fun c holds => by simp [isInner, holds]
  cases item with
  | text s => exact value?_text _ s noQuote
  | number n =>
    show value? _ (Text.digits n ++ rest) = _
    rw [value?_simple _ (stops_digits (by decide) n rest),
      simpleValue?_scalar (stops_digits (by decide) n rest), scalar?_digits writable noWord]
    rfl
  | flag b =>
    have opens : Stops isOpening ((Item.flag b).toChars ++ rest) ∧
        Stops isQuote ((Item.flag b).toChars ++ rest) := by
      cases b with
      | false => exact ⟨stops_cons.2 rfl, stops_cons.2 rfl⟩
      | true => exact ⟨stops_cons.2 rfl, stops_cons.2 rfl⟩
    rw [value?_simple _ opens.1, simpleValue?_scalar opens.2, scalar?_flag b noWord]
    rfl
  | texts ss => exact value?_texts depth ss rest

end LocalPlay.Toml
