import LocalPlay.Proofs.Toml.Plain.Layout
import LocalPlay.Toml.Plain.Writing
import Mathlib.Data.List.TakeWhile

set_option autoImplicit false

/-! # Quoted text is read back

Whatever text is written between quotes, in the way that is chosen for it, is read back as it was
(`quoted?_quotedText`). Every character between double quotes stands for itself or is an escape
(`Stands`). Where three quotes end a text, rows of the same quote in it are shorter than three, except
that up to two of them may touch the end. -/

namespace LocalPlay.Toml

/-! ## Characters -/

theorem isPlain_eq (c : Char) : isPlain c = (c == '\t' || !isControl c) := by
  have inRange : (decide (0x20 ≤ c.toNat) && decide (c.toNat ≤ 0x7E) || decide (0x80 ≤ c.toNat))
      = !isControl c := by
    rw [Bool.eq_iff_iff]
    simp [isControl]
    omega
  rw [isPlain, Bool.or_assoc, inRange]

theorem isPlain_of_needsEscape {c : Char} (stays : needsEscape c = false) (noEnd : c ≠ '\n') :
    isPlain c = true := by
  rw [isPlain_eq]
  simp only [needsEscape, Bool.and_eq_false_iff] at stays
  rcases stays with (noControl | tab) | lineFeed
  · simp [noControl]
  · simpa using Or.inl tab
  · exact absurd lineFeed (by simpa using noEnd)

/-- No line end begins with a character that stands for itself. -/
theorem isLineEnd_of_isPlain {c : Char} (plain : isPlain c = true) : isLineEnd c = false := by
  rw [isLineEnd, Bool.or_eq_false_iff, beq_eq_false_iff_ne, beq_eq_false_iff_ne]
  constructor
  · rintro rfl
    cases plain
  · rintro rfl
    cases plain

theorem newline?_of_isPlain {c : Char} (plain : isPlain c = true) (t : List Char) :
    newline? (c :: t) = none :=
  newline?_of_stops (stops_cons.2 (isLineEnd_of_isPlain plain))

/-- The four digits of a control character spell its number. -/
theorem ofDigitsFrom?_fourDigits {n : Nat} (small : n < 128) :
    Text.ofDigitsFrom? 16 Text.hexDigit? 0 (fourDigits n) = some n := by
  have table : ∀ n : Fin 128,
      Text.ofDigitsFrom? 16 Text.hexDigit? 0 (fourDigits n) = some n.val := by decide
  exact table ⟨n, small⟩

theorem escape?_fourDigits {c : Char} (control : isControl c = true) (t : List Char) :
    escape? ('u' :: (fourDigits c.toNat ++ t)) = some (c, 5) := by
  have small : c.toNat < 128 := by
    simp [isControl] at control
    omega
  have four : (fourDigits c.toNat ++ t).take 4 = fourDigits c.toNat := rfl
  have enough : 4 ≤ (fourDigits c.toNat ++ t).length := Nat.le_add_left 4 t.length
  have valid : c.toNat.isValidChar := c.valid
  rw [escape?, codePoint?, if_pos enough, four, ofDigitsFrom?_fourDigits small, Option.bind_some,
    if_pos valid, Char.ofNat_toNat]

/-- How a character stands between double quotes. -/
inductive Stands (severalLines : Bool) (c : Char) : List Char → Prop
  /-- It stands for itself. -/
  | plain (isPlain : isPlain c = true) (noQuote : c ≠ quote) (noBackslash : c ≠ backslash) :
    Stands severalLines c [c]
  /-- In text of several lines a line feed ends a line. -/
  | lineFeed (several : severalLines = true) (isEnd : c = '\n') : Stands severalLines c [c]
  /-- It is what an escape stands for, and the escape cancels no line end. -/
  | escape {letter : Char} {body : List Char} (noSpace : isSpace letter = false)
    (noFeed : letter ≠ '\n') (noReturn : letter ≠ '\r')
    (reads : ∀ t, escape? (letter :: (body ++ t)) = some (c, body.length + 1)) :
    Stands severalLines c (backslash :: letter :: body)

/-- What is written for a character stands for it. -/
theorem stands_escapeChar (severalLines : Bool) (c : Char) :
    Stands severalLines c (escapeChar severalLines c) := by
  have letter {d : Char} (l : Char) (noSpace : isSpace l = false) (noFeed : l ≠ '\n')
      (noReturn : l ≠ '\r') (reads : ∀ t, escape? (l :: t) = some (d, 1)) :
      Stands severalLines d [backslash, l] := .escape noSpace noFeed noReturn reads
  -- the cases are those of `escapeChar`, in its order
  unfold escapeChar
  split
  next is => exact is ▸ letter 'b' (by decide) (by decide) (by decide) fun _ => rfl
  split
  next is => exact is ▸ letter 't' (by decide) (by decide) (by decide) fun _ => rfl
  split
  next is =>
    split
    next several => exact .lineFeed several is
    next => exact is ▸ letter 'n' (by decide) (by decide) (by decide) fun _ => rfl
  split
  next is => exact is ▸ letter 'f' (by decide) (by decide) (by decide) fun _ => rfl
  split
  next is => exact is ▸ letter 'r' (by decide) (by decide) (by decide) fun _ => rfl
  split
  next is =>
    subst is
    exact letter quote (by decide) (by decide) (by decide) fun _ => rfl
  split
  next is =>
    subst is
    exact letter backslash (by decide) (by decide) (by decide) fun _ => rfl
  next noQuote noBackslash =>
    split
    next control =>
      exact .escape (by decide) (by decide) (by decide) (escape?_fourDigits control)
    next noControl =>
      refine .plain ?_ noQuote noBackslash
      simp [isPlain_eq, noControl]

/-- What stands for a character begins with no quote. -/
theorem Stands.head {severalLines : Bool} {c : Char} {written : List Char}
    (stands : Stands severalLines c written) :
    ∃ d t, written = d :: t ∧ d ≠ quote := by
  cases stands with
  | plain _ noQuote _ => exact ⟨c, [], rfl, noQuote⟩
  | lineFeed _ isEnd => exact ⟨c, [], rfl, isEnd ▸ by decide⟩
  | escape => exact ⟨backslash, _, rfl, by decide⟩

/-! ## Between double quotes -/

theorem basicText?_stands {c : Char} {written : List Char} (stands : Stands false c written)
    (t : List Char) : basicText? (written ++ t) = (basicText? t).map (prepend c) := by
  cases stands with
  | plain isPlain noQuote noBackslash =>
    rw [List.singleton_append, basicText?, if_neg noQuote, if_neg noBackslash, if_pos isPlain]
  | lineFeed several => cases several
  | @escape letter body _ _ _ reads =>
    have after : (letter :: (body ++ t)).drop (body.length + 1) = t := List.drop_left
    rw [List.cons_append, List.cons_append, basicText?, if_neg (by decide), if_pos rfl, reads]
    simp only [after]

theorem basicText?_escapeText (s rest : List Char) :
    basicText? (escapeText false 0 0 s ++ quote :: rest) = some (s, rest) := by
  induction s with
  | nil => rw [escapeText, List.nil_append, basicText?, if_pos rfl]
  | cons c s ih =>
    have unquoted : ¬ (c = quote ∧ 0 < 0) := fun both => Nat.lt_irrefl 0 both.2
    rw [escapeText, if_neg unquoted, List.append_assoc,
      basicText?_stands (stands_escapeChar false c), ih]
    rfl

/-! ## Between single quotes -/

theorem literalText?_append {s : List Char} (plain : ∀ c ∈ s, isPlain c = true)
    (noQuote : apostrophe ∉ s) (rest : List Char) :
    literalText? (s ++ apostrophe :: rest) = some (s, rest) := by
  induction s with
  | nil => rw [List.nil_append, literalText?, if_pos rfl]
  | cons c s ih =>
    rw [List.forall_mem_cons] at plain
    rw [List.mem_cons, not_or] at noQuote
    rw [List.cons_append, literalText?, if_neg (Ne.symm noQuote.1), if_pos plain.1,
      ih plain.2 noQuote.2]
    rfl

/-! ## The end of text of several lines -/

variable {q : Char} {k : Nat}

theorem take_triple (q : Char) (t : List Char) : (triple q ++ t).take 3 = [q, q, q] := rfl

theorem drop_triple (q : Char) (t : List Char) : (triple q ++ t).drop 3 = t := rfl

theorem closing?_replicate (few : k ≤ 2) {rest : List Char} (stops : Stops (· = q) rest) :
    closing? q (List.replicate k q ++ (triple q ++ rest)) = some (k, rest) := by
  have swap : List.replicate k q ++ (triple q ++ rest)
      = triple q ++ (List.replicate k q ++ rest) := by
    rw [← List.append_assoc, ← List.append_assoc, show triple q = List.replicate 3 q from rfl,
      List.replicate_append_replicate, List.replicate_append_replicate, Nat.add_comm]
  have row : (List.replicate k q ++ rest).takeWhile (fun c => decide (c = q))
      = List.replicate k q := takeWhile_append_of_stops (by simp) stops
  have after : (triple q ++ (List.replicate k q ++ rest)).drop (3 + k) = rest := by
    rw [← List.drop_drop, drop_triple, List.drop_left' List.length_replicate]
  rw [swap, closing?, if_pos (take_triple q _), drop_triple, row, List.length_replicate,
    Nat.min_eq_right few]
  simp only [after]

theorem closing?_eq_none {c : Char} (few : k ≤ 2) (other : c ≠ q) (t : List Char) :
    closing? q (List.replicate k q ++ c :: t) = none := by
  have three : (List.replicate k q ++ c :: t).take 3 ≠ [q, q, q] := by
    match k, few with
    | 0, _ => simp [other]
    | 1, _ => simp [other]
    | 2, _ => simp [List.replicate, other]
  exact if_neg three

/-- What a reader that ends a text at three quotes takes, if there are none but quotes before. -/
theorem takes_replicate {take : List Char → Option (List Char × List Char)}
    (ends : ∀ {t rest extra}, closing? q (q :: t) = some (extra, rest) →
      take (q :: t) = some (List.replicate extra q, rest))
    (few : k ≤ 2) {rest : List Char} (stops : Stops (· = q) rest) :
    take (List.replicate k q ++ (triple q ++ rest)) = some (List.replicate k q, rest) := by
  have closes := closing?_replicate few stops
  obtain ⟨t, first⟩ : ∃ t, List.replicate k q ++ (triple q ++ rest) = q :: t := by
    cases k with
    | zero => exact ⟨_, rfl⟩
    | succ k => exact ⟨_, rfl⟩
  rw [first] at closes ⊢
  exact ends closes

/-! ## Between three double quotes -/

theorem basicLines?_stands {c : Char} {written : List Char} (stands : Stands true c written)
    (t : List Char) : basicLines? (written ++ t) = (basicLines? t).map (prepend c) := by
  cases stands with
  | plain isPlain noQuote noBackslash =>
    rw [List.singleton_append, basicLines?, if_neg noQuote, if_neg noBackslash]
    split
    · next ends => rw [newline?_of_isPlain isPlain] at ends; cases ends
    · rw [if_pos isPlain]
  | lineFeed _ isEnd =>
    subst isEnd
    rw [List.singleton_append, basicLines?, if_neg (by decide), if_neg (by decide)]
    rfl
  | @escape letter body noSpace noFeed noReturn reads =>
    have after : (letter :: (body ++ t)).drop (body.length + 1) = t := List.drop_left
    have goesOn : continuation? (letter :: (body ++ t)) = none := by
      rw [continuation?, skipSpace_of_stops (stops_cons.2 noSpace), newline?_of_stops]
      · rfl
      · simp [isLineEnd, noFeed, noReturn]
    rw [List.cons_append, List.cons_append, basicLines?, if_neg (by decide), if_pos rfl]
    split
    · next cancels => rw [goesOn] at cancels; cases cancels
    · simp only [reads, after]

/-- Text that is written between three double quotes begins with at most two of them, less those that
    stand before it, and after them there is another character or nothing. -/
theorem escapeText_row {row : Nat} (few : row ≤ 2) (s : List Char) :
    (∃ k, row + k ≤ 2 ∧ s = List.replicate k quote ∧
      escapeText true 2 row s = List.replicate k quote) ∨
    ∃ k c t, row + k ≤ 2 ∧ c ≠ quote ∧
      escapeText true 2 row s = List.replicate k quote ++ c :: t := by
  induction s generalizing row with
  | nil => exact Or.inl ⟨0, few, rfl, rfl⟩
  | cons c s ih =>
    rw [escapeText]
    split
    · next stays =>
      obtain ⟨rfl, less⟩ := stays
      rcases ih less with ⟨k, bound, all, written⟩ | ⟨k, c, t, bound, other, written⟩
      · refine Or.inl ⟨k + 1, by omega, ?_, ?_⟩
        · rw [all, List.replicate_succ]
        · rw [written, List.replicate_succ]
      · refine Or.inr ⟨k + 1, c, t, by omega, other, ?_⟩
        rw [written, List.replicate_succ, List.cons_append]
    · obtain ⟨d, t, written, other⟩ := (stands_escapeChar true c).head
      exact Or.inr ⟨0, d, t ++ escapeText true 2 0 s, few, other, by rw [written]; rfl⟩

theorem basicLines?_quote {t : List Char} (goesOn : closing? quote (quote :: t) = none) :
    basicLines? (quote :: t) = (basicLines? t).map (prepend quote) := by
  rw [basicLines?, if_pos rfl]
  simp only [goesOn]

theorem basicLines?_closing {t rest : List Char} {extra : Nat}
    (closes : closing? quote (quote :: t) = some (extra, rest)) :
    basicLines? (quote :: t) = some (List.replicate extra quote, rest) := by
  rw [basicLines?, if_pos rfl]
  simp only [closes]

/-- Text between three double quotes is read back. At each quote it is settled by what stands behind
    the row of quotes that begins there: the end of the text, or another character. -/
theorem basicLines?_escapeText {row : Nat} (few : row ≤ 2) (s : List Char) {rest : List Char}
    (stops : Stops (· = quote) rest) :
    basicLines? (escapeText true 2 row s ++ (triple quote ++ rest)) = some (s, rest) := by
  -- `row` counts the quotes right before the text, and a third one in a row is escaped
  induction s generalizing row with
  | nil => exact takes_replicate basicLines?_closing (Nat.zero_le 2) stops
  | cons c s ih =>
    rcases escapeText_row few (c :: s) with
      ⟨k, bound, all, written⟩ | ⟨k, d, t, bound, other, written⟩
    · rw [written, all]
      exact takes_replicate basicLines?_closing (by omega) stops
    · by_cases stays : c = quote ∧ row < 2
      · have goesOn := closing?_eq_none (k := k) (by omega) other (t ++ (triple quote ++ rest))
        rw [← List.cons_append, ← List.append_assoc, ← written, escapeText, if_pos stays, stays.1,
          List.cons_append] at goesOn
        rw [escapeText, if_pos stays, stays.1, List.cons_append, basicLines?_quote goesOn,
          ih stays.2]
        rfl
      · rw [escapeText, if_neg stays, List.append_assoc,
          basicLines?_stands (stands_escapeChar true c), ih (Nat.zero_le 2)]
        rfl

/-! ## Between three single quotes -/

theorem literalLines?_apostrophe {t : List Char}
    (goesOn : closing? apostrophe (apostrophe :: t) = none) :
    literalLines? (apostrophe :: t) = (literalLines? t).map (prepend apostrophe) := by
  rw [literalLines?, if_pos rfl]
  simp only [goesOn]

theorem literalLines?_closing {t rest : List Char} {extra : Nat}
    (closes : closing? apostrophe (apostrophe :: t) = some (extra, rest)) :
    literalLines? (apostrophe :: t) = some (List.replicate extra apostrophe, rest) := by
  rw [literalLines?, if_pos rfl]
  simp only [closes]

theorem literalLines?_cons {c : Char} (noQuote : c ≠ apostrophe) (stays : needsEscape c = false)
    (t : List Char) : literalLines? (c :: t) = (literalLines? t).map (prepend c) := by
  rw [literalLines?, if_neg noQuote]
  by_cases isEnd : c = '\n'
  · subst isEnd
    rfl
  · have plain := isPlain_of_needsEscape stays isEnd
    split
    · next ends => rw [newline?_of_isPlain plain] at ends; cases ends
    · rw [if_pos plain]

/-- A text begins with no more of a quote than there are in its longest row of them. -/
theorem longestRow_row (q : Char) (s : List Char) :
    (∃ k ≤ longestRow q s, s = List.replicate k q) ∨
    ∃ k c t, k ≤ longestRow q s ∧ c ≠ q ∧ s = List.replicate k q ++ c :: t := by
  have bound : (s.takeWhile (· = q)).length ≤ longestRow q s := by
    cases s with
    | nil => exact Nat.zero_le _
    | cons c s => exact Nat.le_max_left _ _
  have row : s.takeWhile (· = q) = List.replicate (s.takeWhile (· = q)).length q := by
    refine List.eq_replicate_of_mem ?_
    intro c mem
    simpa using List.mem_takeWhile_imp mem
  have whole : s = List.replicate (s.takeWhile (· = q)).length q ++ s.dropWhile (· = q) := by
    rw [← row, List.takeWhile_append_dropWhile]
  cases behind : s.dropWhile (· = q) with
  | nil =>
    rw [behind, List.append_nil] at whole
    exact Or.inl ⟨_, bound, whole⟩
  | cons c t =>
    have other := List.head?_dropWhile_not (fun c => decide (c = q)) s
    rw [behind] at whole other
    exact Or.inr ⟨_, c, t, bound, by simpa using other, whole⟩

theorem literalLines?_append {s : List Char} (stay : ∀ c ∈ s, needsEscape c = false)
    (short : longestRow apostrophe s < 3) {rest : List Char} (stops : Stops (· = apostrophe) rest) :
    literalLines? (s ++ (triple apostrophe ++ rest)) = some (s, rest) := by
  induction s with
  | nil => exact takes_replicate literalLines?_closing (Nat.zero_le 2) stops
  | cons c s ih =>
    have later : longestRow apostrophe s < 3 := Nat.lt_of_le_of_lt (Nat.le_max_right _ _) short
    rw [List.forall_mem_cons] at stay
    rcases longestRow_row apostrophe (c :: s) with ⟨k, bound, all⟩ | ⟨k, d, t, bound, other, all⟩
    · rw [all]
      exact takes_replicate literalLines?_closing (by omega) stops
    · by_cases isQuote : c = apostrophe
      · have goesOn := closing?_eq_none (k := k) (by omega) other (t ++ (triple apostrophe ++ rest))
        rw [← List.cons_append, ← List.append_assoc, ← all, isQuote, List.cons_append] at goesOn
        rw [isQuote, List.cons_append, literalLines?_apostrophe goesOn, ih stay.2 later]
        rfl
      · rw [List.cons_append, literalLines?_cons isQuote stay.1, ih stay.2 later]
        rfl

/-! ## Text with its quotes -/

/-- Whether a character can begin a quoted text. -/
def isQuote (c : Char) : Bool := c == quote || c == apostrophe

theorem Stops.noQuote {rest : List Char} (stops : Stops isQuote rest) (isOne : isQuote q = true) :
    Stops (· = q) rest :=
  stops.mono fun _ same => of_decide_eq_true same ▸ isOne

/-- A single quote with no other right behind it is not one of three. -/
theorem take_three_ne {body rest : List Char} (stops : Stops (· = q) body)
    (after : Stops (· = q) rest) : (q :: (body ++ q :: rest)).take 3 ≠ [q, q, q] := by
  intro three
  cases body with
  | nil =>
    cases rest with
    | nil => cases three
    | cons c rest =>
      have other := stops_cons.1 after
      simp at three other
      exact other three
  | cons c body =>
    have other := stops_cons.1 stops
    simp at three other
    exact other three.1

theorem quoted?_basic (s : List Char) {rest : List Char} (stops : Stops isQuote rest) :
    quoted? (Quoting.basic.enclose s ++ rest) = some (s, rest) := by
  have text : Quoting.basic.enclose s ++ rest
      = quote :: (escapeText false 0 0 s ++ quote :: rest) := by
    simp [Quoting.enclose]
  have first : Stops (· = quote) (escapeText false 0 0 s) := by
    cases s with
    | nil => exact stops_nil _
    | cons c s =>
      obtain ⟨d, t, written, other⟩ := (stands_escapeChar false c).head
      rw [escapeText, if_neg (by simp), written, List.cons_append, stops_cons]
      exact decide_eq_false other
  have single := take_three_ne first (stops.noQuote rfl)
  have double : (quote :: (escapeText false 0 0 s ++ quote :: rest)).take 3
      ≠ [apostrophe, apostrophe, apostrophe] := by
    intro three
    cases (List.cons.inj three).1
  have opens : (quote :: (escapeText false 0 0 s ++ quote :: rest)).head? = some quote := rfl
  rw [text, quoted?, if_neg single, if_neg double, if_pos opens]
  exact basicText?_escapeText s rest

theorem quoted?_literal {s : List Char} (plain : ∀ c ∈ s, isPlain c = true) (none : apostrophe ∉ s)
    {rest : List Char} (stops : Stops isQuote rest) :
    quoted? (Quoting.literal.enclose s ++ rest) = some (s, rest) := by
  have text : Quoting.literal.enclose s ++ rest = apostrophe :: (s ++ apostrophe :: rest) := by
    simp [Quoting.enclose]
  have first : Stops (· = apostrophe) s := by
    intro c head
    rw [decide_eq_false_iff_not]
    rintro rfl
    exact none (List.mem_of_head? head)
  have double : (apostrophe :: (s ++ apostrophe :: rest)).take 3 ≠ [quote, quote, quote] := by
    intro three
    cases (List.cons.inj three).1
  have single := take_three_ne first (stops.noQuote rfl)
  have opens : (apostrophe :: (s ++ apostrophe :: rest)).head? = some apostrophe := rfl
  rw [text, quoted?, if_neg double, if_neg single, if_neg (by simp [apostrophe, quote]),
    if_pos opens]
  exact literalText?_append plain none rest

/-- A line end before the text is skipped, and there is none but the one that was put there. -/
theorem skipNewline_lead {s body : List Char} (first : '\n' ∉ s → Stops isLineEnd body) :
    skipNewline (lead s ++ body) = body := by
  unfold lead skipNewline
  split
  · rfl
  · next none => rw [List.nil_append, newline?_of_stops (first none)]; rfl

theorem quoted?_basicLines (s : List Char) {rest : List Char} (stops : Stops isQuote rest) :
    quoted? (Quoting.basicLines.enclose s ++ rest) = some (s, rest) := by
  have text : Quoting.basicLines.enclose s ++ rest
      = triple quote ++ (lead s ++ (escapeText true 2 0 s ++ (triple quote ++ rest))) := by
    simp [Quoting.enclose]
  have first (none : '\n' ∉ s) :
      Stops isLineEnd (escapeText true 2 0 s ++ (triple quote ++ rest)) := by
    cases s with
    | nil => exact stops_cons.2 rfl
    | cons c s =>
      rw [escapeText]
      split
      · next stays => exact stops_cons.2 (stays.1 ▸ rfl)
      · have stands := stands_escapeChar true c
        cases written : escapeChar true c with
        | nil => rw [written] at stands; cases stands
        | cons d t =>
          rw [written] at stands
          refine stops_cons.2 ?_
          cases stands with
          | plain isPlain _ _ => exact isLineEnd_of_isPlain isPlain
          | lineFeed _ isEnd => exact absurd List.mem_cons_self (isEnd ▸ none)
          | escape => rfl
  rw [text, quoted?, if_pos (take_triple quote _), drop_triple, skipNewline_lead first,
    basicLines?_escapeText (Nat.zero_le 2) s (stops.noQuote rfl)]

theorem quoted?_literalLines {s : List Char} (stay : ∀ c ∈ s, needsEscape c = false)
    (short : longestRow apostrophe s < 3) {rest : List Char} (stops : Stops isQuote rest) :
    quoted? (Quoting.literalLines.enclose s ++ rest) = some (s, rest) := by
  have text : Quoting.literalLines.enclose s ++ rest
      = triple apostrophe ++ (lead s ++ (s ++ (triple apostrophe ++ rest))) := by
    simp [Quoting.enclose]
  have first (none : '\n' ∉ s) : Stops isLineEnd (s ++ (triple apostrophe ++ rest)) := by
    cases s with
    | nil => exact stops_cons.2 rfl
    | cons c s =>
      rw [List.mem_cons, not_or] at none
      have plain := isPlain_of_needsEscape (stay c List.mem_cons_self) (Ne.symm none.1)
      exact stops_cons.2 (isLineEnd_of_isPlain plain)
  have double : (triple apostrophe ++ (lead s ++ (s ++ (triple apostrophe ++ rest)))).take 3
      ≠ [quote, quote, quote] := by
    intro three
    cases (List.cons.inj three).1
  rw [text, quoted?, if_neg double, if_pos (take_triple apostrophe _), drop_triple,
    skipNewline_lead first, literalLines?_append stay short (stops.noQuote rfl)]

theorem notMem_of_longestRow {s : List Char} (none : longestRow q s < 1) : q ∉ s := by
  induction s with
  | nil => exact List.not_mem_nil
  | cons c s ih =>
    rw [longestRow, Nat.max_lt] at none
    intro mem
    rcases List.mem_cons.1 mem with rfl | mem
    · rw [List.takeWhile_cons_of_pos (by simp)] at none
      exact absurd none.1 (by simp)
    · exact ih none.2 mem

/-- The way that is chosen suits the text, unless it is one that can write any text. -/
theorem suits_quotingOf (s : List Char) :
    (quotingOf s).Suits s ∨ quotingOf s = .basic ∨ quotingOf s = .basicLines := by
  unfold quotingOf
  split
  · next q found => exact Or.inl (by simpa using List.find?_some found)
  · split
    · exact Or.inr (Or.inr rfl)
    · exact Or.inr (Or.inl rfl)

/-- **Text between quotes is read back**, whatever it is, if no quote follows. -/
theorem quoted?_quotedText (s : List Char) {rest : List Char} (stops : Stops isQuote rest) :
    quoted? (quotedText s ++ rest) = some (s, rest) := by
  have suits := suits_quotingOf s
  rw [quotedText]
  cases chosen : quotingOf s with
  | basic => exact quoted?_basic s stops
  | basicLines => exact quoted?_basicLines s stops
  | literal =>
    rw [chosen] at suits
    obtain ⟨stay, none, oneLine⟩ : Quoting.literal.Suits s := by simpa using suits
    rw [List.any_eq_false] at stay
    refine quoted?_literal ?_ (notMem_of_longestRow none) stops
    intro c mem
    refine isPlain_of_needsEscape (by simpa using stay c mem) ?_
    rintro rfl
    exact oneLine mem
  | literalLines =>
    rw [chosen] at suits
    obtain ⟨stay, short⟩ : Quoting.literalLines.Suits s := by simpa using suits
    rw [List.any_eq_false] at stay
    exact quoted?_literalLines (by simpa using stay) short stops

/-- Text with its quotes begins with one of them. -/
theorem head?_quotedText (s rest : List Char) :
    (quotedText s ++ rest).head? = some quote ∨ (quotedText s ++ rest).head? = some apostrophe := by
  rw [quotedText]
  cases quotingOf s with
  | basic => exact Or.inl rfl
  | literal => exact Or.inr rfl
  | basicLines => exact Or.inl rfl
  | literalLines => exact Or.inr rfl

end LocalPlay.Toml
