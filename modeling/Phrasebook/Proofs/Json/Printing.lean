import Mathlib.Tactic.SplitIfs
import Phrasebook.Json.Printer
import Phrasebook.Json.Reader

/-!
# Reading what was printed

A value that is printed on one line is read back as that value (`read?_compact`), whatever texts are
in it: the printer escapes what would end a string early, and the reader takes the escapes back. A
printed value has no line break in it either, so it can be kept as one line of a file
(`forall_mem_compactChars`).

## What comes after

A scan takes a value off the front of a text, so the induction has to say what may follow it. A
whole number would go on with a digit, a point or an exponent; everything else has a last character
of its own. Inside a list or an object a comma or the closing mark follows, and neither goes on with
a number (`EndsNumber`).

Doubles are left out. Their digits are read by scaling, which is not exact.
-/

namespace Phrasebook.Json

open Text

/-- Values that are kept when they are printed: whole numbers of 64 bits are the only numbers, there
are no single characters, and lists and objects are nested no deeper than the given depth. -/
inductive IsExact : Nat → Json → Prop where
  | null {depth : Nat} : IsExact depth .null
  | bool {depth : Nat} (b : Bool) : IsExact depth (.bool b)
  | int {depth : Nat} {n : Int} (hlow : -signedBound ≤ n) (hhigh : n < UInt64.size) :
    IsExact depth (.int n)
  | str {depth : Nat} (s : String) : IsExact depth (.str s)
  | arr {depth : Nat} {items : List Json} (hitems : ∀ item ∈ items, IsExact depth item) :
    IsExact (depth + 1) (.arr items)
  | obj {depth : Nat} {fields : List (String × Json)}
    (hfields : ∀ field ∈ fields, IsExact depth field.2) : IsExact (depth + 1) (.obj fields)

/-! ## Whole numbers -/

/-- The text does not go on with a number. -/
def EndsNumber (text : List Char) : Prop :=
  ∀ c ∈ text.head?, c.isDigit = false ∧ c ≠ '.' ∧ c ≠ 'e' ∧ c ≠ 'E'

theorem endsNumber_nil : EndsNumber [] := fun _ h ↦ nomatch h

theorem endsNumber_cons {c : Char} (h : c = ',' ∨ c = ']' ∨ c = '}') (text : List Char) :
    EndsNumber (c :: text) := by
  rintro d ⟨⟩
  rcases h with rfl | rfl | rfl <;> decide

theorem digitValue?_digitChar {d : Nat} (h : d < 10) :
    digitValue? 10 (Nat.digitChar d) = some d := by
  have hall : ∀ d < 10, digitValue? 10 (Nat.digitChar d) = some d := by decide
  exact hall d h

theorem isDigit_of_mem_toDigits {n : Nat} {c : Char} (h : c ∈ Nat.toDigits 10 n) :
    c.isDigit = true := Nat.isDigit_of_mem_toDigits (by decide) (by decide) h

theorem exists_toDigits_eq (n : Nat) :
    ∃ c rest, Nat.toDigits 10 n = c :: rest ∧ c.isDigit = true := by
  obtain ⟨c, rest, hdigits⟩ := List.exists_cons_of_ne_nil (Nat.toDigits_ne_nil (b := 10) (n := n))
  exact ⟨c, rest, hdigits, isDigit_of_mem_toDigits (hdigits ▸ List.mem_cons_self)⟩

/-- Only zero is written with a zero in front. -/
theorem head?_toDigits_ne {n : Nat} (h : 0 < n) : (Nat.toDigits 10 n).head? ≠ some '0' := by
  induction n using Nat.strongRecOn with
  | ind n ih =>
    rw [Nat.toDigits_eq_if (by decide)]
    split_ifs with hsmall
    · have hall : ∀ d < 10, 0 < d → [Nat.digitChar d].head? ≠ some '0' := by decide
      exact hall n hsmall h
    · obtain ⟨c, digits, hdigits, -⟩ := exists_toDigits_eq (n / 10)
      have hhead := ih (n / 10) (by omega) (by omega)
      rw [hdigits] at hhead ⊢
      exact hhead

/-- The digits of a number of 64 bits are all kept. -/
theorem extend_toDigits_append {n : Nat} (h : n < UInt64.size) (rest : List Char) :
    Significand.extend 0 1 ⟨0, 0⟩ (Nat.toDigits 10 n ++ rest) =
      Significand.extend 0 1 ⟨n, 0⟩ rest := by
  induction n using Nat.strongRecOn generalizing rest with
  | ind n ih =>
    rw [Nat.toDigits_eq_if (by decide)]
    split_ifs with hsmall
    · rw [List.singleton_append, Significand.extend, digitValue?_digitChar hsmall]
      simp only [Nat.zero_mul, Nat.zero_add, Option.getD_some, if_pos h, Int.add_zero]
    · have hdigit : n % 10 < 10 := Nat.mod_lt n (by decide)
      have hnext : n / 10 * 10 + n % 10 = n := Nat.div_add_mod' n 10
      rw [List.append_assoc, ih (n / 10) (by omega) (by omega), List.singleton_append,
        Significand.extend, digitValue?_digitChar hdigit]
      simp only [Option.getD_some, hnext, if_pos h, Int.add_zero]

theorem extend_toDigits {n : Nat} (h : n < UInt64.size) :
    Significand.extend 0 1 ⟨0, 0⟩ (Nat.toDigits 10 n) = ⟨n, 0⟩ := by
  have hextend := extend_toDigits_append h []
  rwa [List.append_nil] at hextend

theorem run_isDigit_append {digits rest : List Char} (h : ∀ c ∈ digits, c.isDigit = true)
    (hrest : EndsNumber rest) : Scan.run Char.isDigit (digits ++ rest) = (digits, rest) := by
  have hnone : rest.takeWhile Char.isDigit = [] ∧ rest.dropWhile Char.isDigit = rest := by
    cases rest with
    | nil => exact ⟨rfl, rfl⟩
    | cons c rest => simp [(hrest c rfl).1]
  rw [Scan.run, List.takeWhile_append_of_pos h, List.dropWhile_append_of_pos h, hnone.1, hnone.2,
    List.append_nil]

theorem wholePart_toDigits_append (n : Nat) {rest : List Char} (hrest : EndsNumber rest) :
    wholePart (Nat.toDigits 10 n ++ rest) = some (Nat.toDigits 10 n, rest) := by
  rw [wholePart, run_isDigit_append (fun _ ↦ isDigit_of_mem_toDigits) hrest]
  split
  · rename_i hnil
    exact absurd (Prod.mk.inj hnil).1 Nat.toDigits_ne_nil
  · rename_i hzero
    -- a zero in front of other digits: the number is not zero, and so it does not start with one
    have hdigits := (Prod.mk.inj hzero).1
    have hpos : 0 < n := by
      refine Nat.pos_of_ne_zero fun hn ↦ ?_
      rw [hn] at hdigits
      cases hdigits
    exact absurd (congrArg List.head? hdigits) (head?_toDigits_ne hpos)
  · rename_i hdigits
    rw [← hdigits]

theorem unsignedNumber_toDigits_append (negative : Bool) {n : Nat} (h : n < UInt64.size)
    {rest : List Char} (hrest : EndsNumber rest) :
    unsignedNumber negative (Nat.toDigits 10 n ++ rest) =
      if negative then
        if 0 < n ∧ n ≤ signedBound then some (.int (-n), rest)
        else some (.float (-(Float.ofNat n)), rest)
      else some (.int n, rest) := by
  rw [unsignedNumber, wholePart_toDigits_append n hrest]
  simp only [Option.bind_eq_bind, Option.bind_some, extend_toDigits h]
  split
  · exact absurd rfl (hrest '.' rfl).2.1
  · split
    · exact absurd rfl (hrest 'e' rfl).2.2.1
    · exact absurd rfl (hrest 'E' rfl).2.2.2
    · exact if_pos ⟨rfl, trivial⟩

/-- A whole number of 64 bits is read back. -/
theorem number_intText_append {n : Int} (hlow : -signedBound ≤ n) (hhigh : n < UInt64.size)
    {rest : List Char} (hrest : EndsNumber rest) :
    number (intText n ++ rest) = some (.int n, rest) := by
  cases n with
  | ofNat k =>
    have hsize : k < UInt64.size := Int.ofNat_lt.mp hhigh
    have hplus : ∀ tail, Nat.toDigits 10 k ++ rest ≠ '-' :: tail := by
      intro tail hminus
      obtain ⟨c, digits, hdigits, hc⟩ := exists_toDigits_eq k
      rw [hdigits] at hminus
      obtain rfl := (List.cons.inj hminus).1
      cases hc
    rw [intText, number]
    · exact unsignedNumber_toDigits_append false hsize hrest
    · exact hplus
  | negSucc k =>
    have hbound : k + 1 ≤ signedBound := by
      have hneg : -((k + 1 : Nat) : Int) = Int.negSucc k := rfl
      omega
    have hsize : k + 1 < UInt64.size := Nat.lt_of_le_of_lt hbound (by decide)
    have hread := unsignedNumber_toDigits_append true hsize hrest
    rw [if_pos rfl, if_pos ⟨Nat.succ_pos k, hbound⟩] at hread
    exact hread

/-! ## Strings -/

theorem charOfCode?_toNat (c : Char) : charOfCode? c.toNat = some c := by
  have hvalid : c.toNat.isValidChar := c.valid
  rw [charOfCode?, dif_pos hvalid]
  refine congrArg some (Char.ext ?_)
  exact UInt32.ofNat_toNat

theorem hexQuad_hexDigits {n : Nat} (h : n < 0x20) (rest : List Char) :
    hexQuad ('0' :: '0' :: hexDigit (n / 16) :: hexDigit (n % 16) :: rest) = some (n, rest) := by
  have hall : ∀ n < 0x20,
      ['0', '0', hexDigit (n / 16), hexDigit (n % 16)].all (isDigitOf 16) = true ∧
        digitsValue 16 0 ['0', '0', hexDigit (n / 16), hexDigit (n % 16)] = n := by decide
  obtain ⟨hdigits, hvalue⟩ := hall n h
  rw [hexQuad, if_pos hdigits, hvalue]

/-- A control is read back from its code. -/
theorem unicodeEscape_hexDigits {c : Char} (h : c.toNat < 0x20) (rest : List Char) :
    unicodeEscape ('0' :: '0' :: hexDigit (c.toNat / 16) :: hexDigit (c.toNat % 16) :: rest) =
      some (c, rest) := by
  rw [unicodeEscape, hexQuad_hexDigits h]
  simp only [Option.bind_eq_bind, Option.bind_some]
  rw [if_neg (by omega), charOfCode?_toNat]
  rfl

/-- An escape is one character of the string. -/
theorem stringBody_backslash {c : Char} {text text' : List Char}
    (h : escape text = some (c, text')) (rounds : Nat) :
    stringBody (rounds + 1) ('\\' :: text) =
      (stringBody rounds text').map fun (body, rest) ↦ (c :: body, rest) := by
  rw [stringBody, h]
  simp only [Option.bind_eq_bind, Option.bind_some]
  cases stringBody rounds text' <;> rfl

theorem stringBody_escapeChar_append (c : Char) (rounds : Nat) (text : List Char) :
    stringBody (rounds + 1) (escapeChar c ++ text) =
      (stringBody rounds text).map fun (body, rest) ↦ (c :: body, rest) := by
  rw [escapeChar]
  split_ifs with hquote hbackslash hfeed hreturn htab hback hform hcontrol
  · exact stringBody_backslash (by rw [hquote]; rfl) rounds
  · exact stringBody_backslash (by rw [hbackslash]; rfl) rounds
  · exact stringBody_backslash (by rw [hfeed]; rfl) rounds
  · exact stringBody_backslash (by rw [hreturn]; rfl) rounds
  · exact stringBody_backslash (by rw [htab]; rfl) rounds
  · exact stringBody_backslash (by rw [hback]; rfl) rounds
  · exact stringBody_backslash (by rw [hform]; rfl) rounds
  · have hescape : escape ('u' :: '0' :: '0' :: hexDigit (c.toNat / 16) ::
        hexDigit (c.toNat % 16) :: text) = some (c, text) := unicodeEscape_hexDigits hcontrol text
    exact stringBody_backslash hescape rounds
  · rw [List.singleton_append, stringBody, if_neg hcontrol]
    · cases stringBody rounds text <;> rfl
    · exact hquote
    · exact hbackslash

theorem one_le_length_escapeChar (c : Char) : 1 ≤ (escapeChar c).length := by
  rw [escapeChar]
  split_ifs <;> exact Nat.succ_le_succ (Nat.zero_le _)

theorem length_le_flatMap_escapeChar (text : List Char) :
    text.length ≤ (text.flatMap escapeChar).length := by
  induction text with
  | nil => exact Nat.le_refl _
  | cons c text ih =>
    rw [List.flatMap_cons, List.length_append, List.length_cons, Nat.add_comm]
    exact Nat.add_le_add (one_le_length_escapeChar c) ih

theorem stringBody_flatMap_append {text : List Char} {rounds : Nat} (h : text.length < rounds)
    (rest : List Char) :
    stringBody rounds (text.flatMap escapeChar ++ '"' :: rest) = some (text, rest) := by
  induction text generalizing rounds with
  | nil =>
    obtain ⟨rounds, rfl⟩ := Nat.exists_eq_add_one_of_ne_zero (Nat.ne_of_gt h)
    rfl
  | cons c text ih =>
    obtain ⟨rounds, rfl⟩ := Nat.exists_eq_add_one_of_ne_zero (Nat.ne_zero_of_lt h)
    rw [List.flatMap_cons, List.append_assoc, stringBody_escapeChar_append,
      ih (Nat.lt_of_succ_lt_succ h)]
    rfl

/-- **A text between quotes is read back**, whatever is in it. -/
theorem string_quote_append (s : String) (rest : List Char) :
    string (quote s ++ rest) = some (s, rest) := by
  have hlength := length_le_flatMap_escapeChar s.toList
  have hbody : stringBody ((s.toList.flatMap escapeChar ++ '"' :: rest).length + 1)
      (s.toList.flatMap escapeChar ++ '"' :: rest) = some (s.toList, rest) := by
    refine stringBody_flatMap_append ?_ rest
    rw [List.length_append]
    omega
  rw [quote, List.cons_append, List.append_assoc, List.singleton_append, string, hbody]
  exact congrArg (fun t ↦ some (t, rest)) String.ofList_toList

/-! ## Lists of printed things -/

section Following

variable {α : Type}

/-- The text of some things with a comma in front of each, and of the closing mark behind them. -/
def following (print : α → List Char) (mark : Char) : List α → List Char
  | [] => [mark]
  | a :: rest => ',' :: (print a ++ following print mark rest)

/-- The text starts with something that is neither a blank nor the mark. -/
def StartsOff (mark : Char) (text : List Char) : Prop :=
  ∃ c rest, text = c :: rest ∧ isJsonBlank c = false ∧ c ≠ mark

theorem skipBlanks_cons {c : Char} (h : isJsonBlank c = false) (text : List Char) :
    skipBlanks (c :: text) = c :: text := List.dropWhile_cons_of_neg (by rw [h]; decide)

theorem StartsOff.skipBlanks {mark : Char} {text : List Char} (h : StartsOff mark text)
    (rest : List Char) : skipBlanks (text ++ rest) = text ++ rest := by
  obtain ⟨c, tail, rfl, hblank, -⟩ := h
  exact skipBlanks_cons hblank (tail ++ rest)

theorem expect_singleton (mark c : Char) (text : List Char) :
    Scan.expect [mark] (c :: text) = if c = mark then some ((), text) else none := by
  have hcut : [mark].isPrefixOf? (c :: text) = if mark == c then some text else none := rfl
  rw [Scan.expect, hcut]
  by_cases h : c = mark
  · rw [if_pos h, if_pos (beq_iff_eq.mpr h.symm)]
    rfl
  · rw [if_neg h, if_neg fun heq ↦ h (beq_iff_eq.mp heq).symm]
    rfl

theorem expect_self (c : Char) (text : List Char) :
    Scan.expect [c] (c :: text) = some ((), text) := by
  rw [expect_singleton, if_pos rfl]

theorem expect_of_ne {mark c : Char} (h : c ≠ mark) (text : List Char) :
    Scan.expect [mark] (c :: text) = none := by
  rw [expect_singleton, if_neg h]

theorem StartsOff.closing {mark : Char} {text : List Char} (h : StartsOff mark text)
    (rest : List Char) : closing mark (text ++ rest) = none := by
  rw [Json.closing, h.skipBlanks]
  obtain ⟨c, tail, rfl, -, hne⟩ := h
  exact expect_of_ne hne (tail ++ rest)

variable {scan : Scan α} {print : α → List Char} {mark : Char}

theorem closing_mark (hmark : mark = ']' ∨ mark = '}') (text : List Char) :
    closing mark (mark :: text) = some ((), text) := by
  have hblank : isJsonBlank mark = false := by rcases hmark with rfl | rfl <;> decide
  rw [closing, skipBlanks_cons hblank, expect_self]

theorem closing_comma (hmark : mark = ']' ∨ mark = '}') (text : List Char) :
    closing mark (',' :: text) = none := by
  have hne : ',' ≠ mark := by rcases hmark with rfl | rfl <;> decide
  rw [closing, skipBlanks_cons (by decide), expect_of_ne hne]

theorem StartsOff.comma {text : List Char} (h : StartsOff mark text) (rest : List Char) :
    comma (',' :: (text ++ rest)) = some ((), text ++ rest) := by
  rw [Json.comma, skipBlanks_cons (by decide), expect_self]
  exact congrArg (fun text ↦ some ((), text)) (h.skipBlanks rest)

/-- Printed things with commas between them are read one after the other. -/
theorem separated_following (hmark : mark = ']' ∨ mark = '}') {a : α} {items : List α}
    (hscan : ∀ b ∈ a :: items, ∀ text, EndsNumber text → scan (print b ++ text) = some (b, text))
    (hstart : ∀ b ∈ items, StartsOff mark (print b)) {rounds : Nat}
    (hrounds : items.length < rounds) (rest : List Char) :
    Scan.separated scan comma (closing mark) rounds
      (print a ++ (following print mark items ++ rest)) = some (a :: items, rest) := by
  induction items generalizing a rounds with
  | nil =>
    obtain ⟨rounds, rfl⟩ := Nat.exists_eq_add_one_of_ne_zero (Nat.ne_of_gt hrounds)
    have hends : EndsNumber (mark :: rest) := endsNumber_cons (.inr hmark) rest
    rw [Scan.separated, following, List.singleton_append, hscan a List.mem_cons_self _ hends]
    simp only [Option.bind_eq_bind, Option.bind_some, closing_mark hmark]
  | cons b items ih =>
    obtain ⟨rounds, rfl⟩ := Nat.exists_eq_add_one_of_ne_zero (Nat.ne_zero_of_lt hrounds)
    obtain ⟨hb, hitems⟩ := List.forall_mem_cons.mp hstart
    obtain ⟨ha, hrest⟩ := List.forall_mem_cons.mp hscan
    have hread := ih hrest hitems (Nat.lt_of_succ_lt_succ hrounds)
    rw [Scan.separated, following, List.cons_append, List.append_assoc,
      ha _ (endsNumber_cons (.inl rfl) _)]
    simp only [Option.bind_eq_bind, Option.bind_some, closing_comma hmark, hb.comma, hread]

theorem length_le_following (print : α → List Char) (mark : Char) (items : List α) :
    items.length ≤ (following print mark items).length := by
  induction items with
  | nil => exact Nat.zero_le _
  | cons a items ih =>
    rw [following, List.length_cons, List.length_cons, List.length_append]
    omega

/-- A list is read back when the things in it are. -/
theorem enclosed_following (hmark : mark = ']' ∨ mark = '}') {a : α} {items : List α}
    (hscan : ∀ b ∈ a :: items, ∀ text, EndsNumber text → scan (print b ++ text) = some (b, text))
    (hstart : ∀ b ∈ a :: items, StartsOff mark (print b)) (rest : List Char) :
    Scan.enclosed scan comma (closing mark)
      (skipBlanks (print a ++ (following print mark items ++ rest))) = some (a :: items, rest) := by
  obtain ⟨ha, hitems⟩ := List.forall_mem_cons.mp hstart
  have hlength := length_le_following print mark items
  rw [ha.skipBlanks, Scan.enclosed, ha.closing]
  refine separated_following hmark hscan hitems ?_ rest
  rw [List.length_append, List.length_append]
  omega

theorem enclosed_nil (hmark : mark = ']' ∨ mark = '}') (rest : List Char) :
    Scan.enclosed scan comma (closing mark) (skipBlanks (mark :: rest)) = some ([], rest) := by
  have hblank : isJsonBlank mark = false := by rcases hmark with rfl | rfl <;> decide
  rw [skipBlanks_cons hblank, Scan.enclosed, closing_mark hmark]

end Following

/-! ## Values -/

/-- A field as it is printed. -/
def fieldChars (field : String × Json) : List Char :=
  quote field.1 ++ ':' :: compactChars field.2

theorem compactItems_eq (items : List Json) :
    compactItems items = following compactChars ']' items := by
  induction items with
  | nil => rfl
  | cons item items ih => rw [compactItems, following, ih]

theorem compactFields_eq (fields : List (String × Json)) :
    compactFields fields = following fieldChars '}' fields := by
  induction fields with
  | nil => rfl
  | cons field fields ih =>
    obtain ⟨name, value⟩ := field
    rw [compactFields, following, ih, fieldChars, List.append_assoc, List.cons_append]

theorem compactChars_obj_cons (entry : String × Json) (fields : List (String × Json)) :
    compactChars (.obj (entry :: fields)) =
      '{' :: (fieldChars entry ++ following fieldChars '}' fields) := by
  rw [compactChars, compactFields_eq, fieldChars, List.append_assoc, List.cons_append]

theorem startsOff_quote {mark : Char} (hmark : mark = ']' ∨ mark = '}') (s : String)
    (rest : List Char) : StartsOff mark (quote s ++ rest) := by
  refine ⟨'"', s.toList.flatMap escapeChar ++ ['"'] ++ rest, rfl, by decide, ?_⟩
  rcases hmark with rfl | rfl <;> decide

theorem exists_intText_eq (n : Int) :
    ∃ c rest, intText n = c :: rest ∧ (c.isDigit = true ∨ c = '-') := by
  cases n with
  | ofNat k =>
    obtain ⟨c, rest, hdigits, hc⟩ := exists_toDigits_eq k
    exact ⟨c, rest, hdigits, .inl hc⟩
  | negSucc k => exact ⟨'-', _, rfl, .inr rfl⟩

/-- A number starts with a digit or a minus, and so it is nothing else. -/
theorem value_eq_number {c : Char} (h : c.isDigit = true ∨ c = '-') (depth : Nat)
    (rest : List Char) : value depth (c :: rest) = number (c :: rest) := by
  unfold value
  split
  case h_7 => rfl
  -- what else a value may start with is neither
  all_goals
    rename_i hother
    obtain rfl := (List.cons.inj hother).1
    exact absurd h (by decide)

theorem startsOff_intText {mark : Char} (hmark : mark = ']' ∨ mark = '}') (n : Int) :
    StartsOff mark (intText n) := by
  obtain ⟨c, rest, htext, hc⟩ := exists_intText_eq n
  have hne : ∀ d : Char, d.isDigit = false → d ≠ '-' → c ≠ d := by
    rintro d hdigit hminus rfl
    rcases hc with hc | hc
    · rw [hdigit] at hc
      cases hc
    · exact hminus hc
  refine ⟨c, rest, htext, ?_, ?_⟩
  · simp [isJsonBlank, hne ' ' rfl (by decide), hne '\t' rfl (by decide), hne '\n' rfl (by decide),
      hne '\r' rfl (by decide)]
  · rcases hmark with rfl | rfl <;> exact hne _ rfl (by decide)

theorem startsOff_compactChars {mark : Char} (hmark : mark = ']' ∨ mark = '}') {depth : Nat}
    {v : Json} (h : IsExact depth v) : StartsOff mark (compactChars v) := by
  have hword : ∀ (c : Char) (rest : List Char), isJsonBlank c = false → c ≠ ']' → c ≠ '}' →
      StartsOff mark (c :: rest) := by
    intro c rest hblank hbracket hbrace
    refine ⟨c, rest, rfl, hblank, ?_⟩
    rcases hmark with rfl | rfl
    · exact hbracket
    · exact hbrace
  cases h with
  | null => exact hword _ _ rfl (by decide) (by decide)
  | bool b => cases b <;> exact hword _ _ rfl (by decide) (by decide)
  | int => exact startsOff_intText hmark _
  | str s => exact hword _ _ rfl (by decide) (by decide)
  | @arr _ items => cases items <;> exact hword _ _ rfl (by decide) (by decide)
  | @obj _ fields => cases fields <;> exact hword _ _ rfl (by decide) (by decide)

theorem field_fieldChars_append {depth : Nat} {entry : String × Json}
    (hentry : IsExact depth entry.2) (hvalue : ∀ text, EndsNumber text →
      value depth (compactChars entry.2 ++ text) = some (entry.2, text))
    {rest : List Char} (hrest : EndsNumber rest) :
    field (value depth) (fieldChars entry ++ rest) = some (entry, rest) := by
  have hstart : StartsOff ']' (compactChars entry.2) := startsOff_compactChars (.inl rfl) hentry
  rw [field, fieldChars, List.append_assoc, string_quote_append]
  simp only [Option.bind_eq_bind, Option.bind_some]
  rw [List.cons_append, skipBlanks_cons (by decide), expect_self]
  simp only [Option.bind_some, hstart.skipBlanks, hvalue rest hrest]

/-- **A printed value is read back**, with whatever follows it. -/
theorem value_compactChars_append {depth : Nat} {v : Json} (h : IsExact depth v)
    {rest : List Char} (hrest : EndsNumber rest) :
    value depth (compactChars v ++ rest) = some (v, rest) := by
  induction h generalizing rest with
  | null =>
    unfold value
    rfl
  | bool b =>
    unfold value
    cases b <;> rfl
  | @int depth n hlow hhigh =>
    obtain ⟨c, tail, htext, hc⟩ := exists_intText_eq n
    have hnumber := number_intText_append hlow hhigh hrest
    have hchars : compactChars (.int n) = c :: tail := htext
    rw [htext] at hnumber
    rw [hchars, List.cons_append, value_eq_number hc]
    exact hnumber
  | @str depth s =>
    have hquote : compactChars (.str s) = quote s := rfl
    have hread := string_quote_append s rest
    rw [hquote, quote, List.cons_append, value]
    rw [quote, List.cons_append] at hread
    rw [hread, Option.map_some]
  | @arr depth items hitems ih =>
    cases items with
    | nil =>
      rw [compactChars, List.cons_append, List.singleton_append, value, enclosed_nil (.inl rfl)]
      rfl
    | cons item items =>
      rw [compactChars, List.cons_append, List.append_assoc, compactItems_eq, value,
        enclosed_following (.inl rfl) (fun b hb text htext ↦ ih b hb htext)
          fun b hb ↦ startsOff_compactChars (.inl rfl) (hitems b hb)]
      rfl
  | @obj depth fields hfields ih =>
    cases fields with
    | nil =>
      rw [compactChars, List.cons_append, List.singleton_append, value, enclosed_nil (.inr rfl)]
      rfl
    | cons entry fields =>
      rw [compactChars_obj_cons, List.cons_append, List.append_assoc, value,
        enclosed_following (.inr rfl)
          (fun b hb text htext ↦ field_fieldChars_append (hfields b hb)
            (fun text htext ↦ ih b hb htext) htext)
          fun b hb ↦ startsOff_quote (.inr rfl) b.1 _]
      rfl

/-- **A printed value is read back** from the text that it is. -/
theorem read?_compact {v : Json} (h : IsExact maxDepth v) : read? (compact v) = some v := by
  have hstart : StartsOff ']' (compactChars v) := startsOff_compactChars (.inl rfl) h
  obtain ⟨c, rest, htext, hblank, -⟩ := hstart
  have hskip : skipBlanks (compactChars v) = compactChars v := by
    rw [htext, skipBlanks_cons hblank]
  have hvalue := value_compactChars_append h endsNumber_nil
  rw [List.append_nil] at hvalue
  rw [read?, compact, String.toList_ofList, hskip, hvalue]
  rfl

/-! ## No line breaks -/

/-- A text without controls, as it is tested. -/
theorem forall_mem_of_all {text : List Char}
    (h : (text.all fun c ↦ decide (0x20 ≤ c.toNat)) = true) : ∀ c ∈ text, 0x20 ≤ c.toNat :=
  fun c hc ↦ of_decide_eq_true (List.all_eq_true.mp h c hc)

theorem le_toNat_hexDigit {n : Nat} (h : n < 16) : 0x20 ≤ (hexDigit n).toNat := by
  have hall : ∀ n < 16, 0x20 ≤ (hexDigit n).toNat := by decide
  exact hall n h

theorem forall_mem_escapeChar (c : Char) : ∀ d ∈ escapeChar c, 0x20 ≤ d.toNat := by
  rw [escapeChar]
  split_ifs with hquote hbackslash hfeed hreturn htab hback hform hcontrol
  -- the escapes that are a backslash and a letter
  any_goals exact forall_mem_of_all rfl
  · have hhigh := le_toNat_hexDigit (n := c.toNat / 16) (by omega)
    have hlow := le_toNat_hexDigit (n := c.toNat % 16) (by omega)
    simp [hhigh, hlow]
  · exact List.forall_mem_singleton.mpr (Nat.le_of_not_lt hcontrol)

theorem forall_mem_quote (s : String) : ∀ c ∈ quote s, 0x20 ≤ c.toNat := by
  have hmark : ∀ c ∈ ['"'], 0x20 ≤ c.toNat := forall_mem_of_all rfl
  refine List.forall_mem_cons.mpr ⟨by decide, List.forall_mem_append.mpr ⟨?_, hmark⟩⟩
  intro c hc
  obtain ⟨d, -, hd⟩ := List.mem_flatMap.mp hc
  exact forall_mem_escapeChar d c hd

theorem forall_mem_intText (n : Int) : ∀ c ∈ intText n, 0x20 ≤ c.toNat := by
  have hdigits : ∀ k, ∀ c ∈ Nat.toDigits 10 k, 0x20 ≤ c.toNat := by
    intro k c hc
    have hdigit := isDigit_of_mem_toDigits hc
    rw [Char.isDigit, Bool.and_eq_true, decide_eq_true_eq] at hdigit
    exact Nat.le_trans (by decide) (UInt32.le_iff_toNat_le.mp hdigit.1)
  cases n with
  | ofNat k => exact hdigits k
  | negSucc k => exact List.forall_mem_cons.mpr ⟨by decide, hdigits (k + 1)⟩

theorem forall_mem_following {α : Type} {print : α → List Char} {mark : Char}
    (hmark : 0x20 ≤ mark.toNat) {items : List α}
    (h : ∀ a ∈ items, ∀ c ∈ print a, 0x20 ≤ c.toNat) :
    ∀ c ∈ following print mark items, 0x20 ≤ c.toNat := by
  induction items with
  | nil => exact List.forall_mem_singleton.mpr hmark
  | cons a items ih =>
    obtain ⟨ha, hitems⟩ := List.forall_mem_cons.mp h
    exact List.forall_mem_cons.mpr ⟨by decide, List.forall_mem_append.mpr ⟨ha, ih hitems⟩⟩

/-- **A printed value is one line**: there are no controls in it. -/
theorem forall_mem_compactChars {depth : Nat} {v : Json} (h : IsExact depth v) :
    ∀ c ∈ compactChars v, 0x20 ≤ c.toNat := by
  induction h with
  | null => exact forall_mem_of_all rfl
  | bool b => cases b <;> exact forall_mem_of_all rfl
  | @int _ n => exact forall_mem_intText n
  | str s => exact forall_mem_quote s
  | @arr depth items hitems ih =>
    cases items with
    | nil => exact forall_mem_of_all rfl
    | cons item items =>
      obtain ⟨hitem, hrest⟩ := List.forall_mem_cons.mp ih
      rw [compactChars, compactItems_eq]
      exact List.forall_mem_cons.mpr ⟨by decide,
        List.forall_mem_append.mpr ⟨hitem, forall_mem_following (by decide) hrest⟩⟩
  | @obj depth fields hfields ih =>
    have hprinted : ∀ field ∈ fields, ∀ c ∈ fieldChars field, 0x20 ≤ c.toNat := by
      intro field hfield
      exact List.forall_mem_append.mpr ⟨forall_mem_quote field.1,
        List.forall_mem_cons.mpr ⟨by decide, ih field hfield⟩⟩
    cases fields with
    | nil => exact forall_mem_of_all rfl
    | cons entry fields =>
      obtain ⟨hentry, hrest⟩ := List.forall_mem_cons.mp hprinted
      rw [compactChars_obj_cons]
      exact List.forall_mem_cons.mpr ⟨by decide,
        List.forall_mem_append.mpr ⟨hentry, forall_mem_following (by decide) hrest⟩⟩

end Phrasebook.Json
