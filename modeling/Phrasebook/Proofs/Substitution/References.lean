import Phrasebook.Proofs.Template.Grammar
import Phrasebook.Substitution

/-!
# References in a text

A text refers to a name wherever the name stands in braces, and nothing before it or behind it can
change that: an opening brace that waits for its partner gives up at the next opening brace. So a
text falls apart at each of its references, and substitution works on the parts.

## Two laws

Substitution follows two laws. Around a reference it works on both sides separately and puts in
between them what the placeholder took, as it is. A text without references stays as it is. Every
text is reached by these laws, since the sides of a reference are shorter than the whole, and so
they leave no other function.
-/

namespace Phrasebook.Substitution

/-! ## Pieces and the text that they stand for -/

/-- A piece as it stands in a text. -/
def Part.chars : Part → List Char
  | .char c => [c]
  | .reference name => '{' :: (name.toList ++ ['}'])

/-- The characters that were read and are in no piece yet. -/
def pending : Option (List Char) → List Char
  | none => []
  | some run => '{' :: run.reverse

theorem flatMap_chars_verbatim (text : List Char) : (verbatim text).flatMap Part.chars = text := by
  induction text with
  | nil => rfl
  | cons c text ih => rw [verbatim, List.map_cons, List.flatMap_cons, ← verbatim, ih]; rfl

/-- No character is lost, and none is moved. -/
theorem flatMap_chars_partsFrom (opened : Option (List Char)) (text : List Char) :
    (partsFrom opened text).flatMap Part.chars = pending opened ++ text := by
  fun_induction partsFrom opened text with
  | case1 => rfl
  | case2 run => rw [flatMap_chars_verbatim, List.append_nil]; rfl
  | case3 rest ih => exact ih
  | case4 c rest hopen ih => rw [List.flatMap_cons, ih]; rfl
  | case5 run rest ih => rw [List.flatMap_append, flatMap_chars_verbatim, ih]; rfl
  | case6 run rest hname hopen ih =>
    rw [List.flatMap_cons, ih, Part.chars, String.toList_ofList]
    simp [pending]
  | case7 run rest hname hopen ih =>
    rw [List.flatMap_append, flatMap_chars_verbatim, ih]
    simp [pending]
  | case8 run c rest hopen hclose ih => rw [ih]; simp [pending]

theorem not_reference_mem_verbatim {name : String} {text : List Char} :
    Part.reference name ∉ verbatim text := by
  simp [verbatim]

theorem isIdentifier_of_mem_partsFrom {name : String} {opened : Option (List Char)}
    {text : List Char} (h : Part.reference name ∈ partsFrom opened text) :
    isIdentifier name.toList = true := by
  fun_induction partsFrom opened text with
  | case1 => exact absurd h List.not_mem_nil
  | case2 run => exact absurd h not_reference_mem_verbatim
  | case3 rest ih => exact ih h
  | case4 c rest hopen ih => exact ih ((List.mem_cons.mp h).resolve_left nofun)
  | case5 run rest ih => exact ih ((List.mem_append.mp h).resolve_left not_reference_mem_verbatim)
  | case6 run rest hname hopen ih =>
    rcases List.mem_cons.mp h with heq | hrest
    · rwa [Part.reference.inj heq, String.toList_ofList]
    · exact ih hrest
  | case7 run rest hname hopen ih =>
    exact ih ((List.mem_append.mp h).resolve_left not_reference_mem_verbatim)
  | case8 run c rest hopen hclose ih => exact ih h

/-! ## A text falls apart at a reference -/

/-- Behind an opening brace, text without braces may still be a name. -/
theorem partsFrom_append {text : List Char} (h : BraceFree text) (run rest : List Char) :
    partsFrom (some run) (text ++ rest) = partsFrom (some (text.reverse ++ run)) rest := by
  induction text generalizing run with
  | nil => rfl
  | cons c text ih =>
    obtain ⟨⟨hopen, hclose⟩, htext⟩ := braceFree_cons.mp h
    rw [List.cons_append, partsFrom, if_neg hopen, if_neg hclose, ih htext, List.reverse_cons,
      List.append_assoc, List.singleton_append]

/-- Where no brace is waiting, it stands for itself. -/
theorem partsFrom_none_append {text : List Char} (h : BraceFree text) (rest : List Char) :
    partsFrom none (text ++ rest) = verbatim text ++ partsFrom none rest := by
  induction text with
  | nil => rfl
  | cons c text ih =>
    obtain ⟨⟨hopen, -⟩, htext⟩ := braceFree_cons.mp h
    rw [List.cons_append, partsFrom, if_neg hopen, ih htext]
    rfl

theorem partsFrom_name {name : List Char} (h : isIdentifier name = true) (rest : List Char) :
    partsFrom (some []) (name ++ '}' :: rest) =
      .reference (String.ofList name) :: partsFrom none rest := by
  rw [partsFrom_append (.of_isIdentifier h), List.append_nil, partsFrom, if_neg (by decide),
    if_pos rfl, List.reverse_reverse, if_pos h]

/-- **A reference is found wherever it stands.** What was read before it, and an opening brace that
is still waiting, make no difference. -/
theorem partsFrom_append_reference {name : List Char} (h : isIdentifier name = true)
    (opened : Option (List Char)) (before after : List Char) :
    partsFrom opened (before ++ '{' :: (name ++ '}' :: after)) =
      partsFrom opened before ++ .reference (String.ofList name) :: partsFrom none after := by
  fun_induction partsFrom opened before with
  | case1 => rw [List.nil_append, partsFrom, if_pos rfl, partsFrom_name h, List.nil_append]
  | case2 run => rw [List.nil_append, partsFrom, if_pos rfl, partsFrom_name h]
  | case3 rest ih => rw [List.cons_append, partsFrom, if_pos rfl, ih]
  | case4 c rest hopen ih => rw [List.cons_append, partsFrom, if_neg hopen, ih, List.cons_append]
  | case5 run rest ih => rw [List.cons_append, partsFrom, if_pos rfl, ih, List.append_assoc]
  | case6 run rest hname hopen ih =>
    rw [List.cons_append, partsFrom, if_neg hopen, if_pos rfl, if_pos hname, ih, List.cons_append]
  | case7 run rest hname hopen ih =>
    rw [List.cons_append, partsFrom, if_neg hopen, if_pos rfl, if_neg hname, ih, List.append_assoc]
  | case8 run c rest hopen hclose ih =>
    rw [List.cons_append, partsFrom, if_neg hopen, if_neg hclose, ih]

/-! ## References -/

/-- A name as a text refers to it. -/
def written (name : String) : String := "\x7b" ++ name ++ "\x7d"

/-- The text refers to the name: the name is an identifier and stands somewhere in braces. -/
def Refers (text name : String) : Prop :=
  isIdentifier name.toList = true ∧ ∃ before after, text = before ++ written name ++ after

theorem toList_append_written (before name after : String) :
    (before ++ written name ++ after).toList =
      before.toList ++ '{' :: (name.toList ++ '}' :: after.toList) := by
  simp [written]

theorem length_append_written (before name after : String) :
    (before ++ written name ++ after).length =
      before.length + (name.length + 2) + after.length := by
  rw [← String.length_toList, toList_append_written]
  simp only [List.length_append, List.length_cons, String.length_toList]
  omega

theorem parts_append_written {name : String} (h : isIdentifier name.toList = true)
    (before after : String) :
    parts (before ++ written name ++ after).toList =
      parts before.toList ++ .reference name :: parts after.toList := by
  rw [toList_append_written, parts, partsFrom_append_reference h, String.ofList_toList, parts,
    parts]

theorem refers_iff_mem_parts {text name : String} :
    Refers text name ↔ Part.reference name ∈ parts text.toList := by
  constructor
  · rintro ⟨hname, before, after, rfl⟩
    rw [parts_append_written hname]
    exact List.mem_append_right _ List.mem_cons_self
  · intro hmem
    obtain ⟨before, after, hparts⟩ := List.append_of_mem hmem
    have htext : (parts text.toList).flatMap Part.chars = text.toList :=
      flatMap_chars_partsFrom none text.toList
    refine ⟨isIdentifier_of_mem_partsFrom hmem, String.ofList (before.flatMap Part.chars),
      String.ofList (after.flatMap Part.chars), ?_⟩
    rw [← String.toList_inj, toList_append_written, ← htext, hparts]
    simp [Part.chars]

theorem mem_names_iff {text name : String} : name ∈ names text ↔ Refers text name := by
  rw [refers_iff_mem_parts, names, List.mem_filterMap]
  constructor
  · rintro ⟨_ | other, hmem, hname⟩
    · cases hname
    · rwa [← Option.some_inj.mp hname]
  · exact fun hmem ↦ ⟨.reference name, hmem, rfl⟩

/-! ## The laws of substitution -/

/-- Only the names that a text refers to matter. -/
theorem substitute_congr {captures others : Captures} {text : String}
    (h : ∀ name, Refers text name →
      (captures.get? name).getD "" = (others.get? name).getD "") :
    substitute captures text = substitute others text := by
  have hresolve : ∀ part ∈ parts text.toList, part.resolve captures = part.resolve others := by
    intro part hpart
    cases part with
    | char c => rfl
    | reference name => rw [Part.resolve, Part.resolve, h name (refers_iff_mem_parts.mpr hpart)]
  rw [substitute, substitute, List.flatMap_congr hresolve]

theorem substitute_append_written (captures : Captures) {name : String}
    (h : isIdentifier name.toList = true) (before after : String) :
    substitute captures (before ++ written name ++ after) =
      substitute captures before ++ (captures.get? name).getD "" ++ substitute captures after := by
  rw [substitute, parts_append_written h, List.flatMap_append, List.flatMap_cons, Part.resolve,
    String.ofList_append, String.ofList_append, String.ofList_toList, ← String.append_assoc,
    substitute, substitute]

theorem substitute_eq_self (captures : Captures) {text : String}
    (h : ∀ name, ¬Refers text name) : substitute captures text = text := by
  have hresolve : ∀ part ∈ parts text.toList, part.resolve captures = part.chars := by
    intro part hpart
    cases part with
    | char c => rfl
    | reference name => exact absurd (refers_iff_mem_parts.mpr hpart) (h name)
  rw [substitute, List.flatMap_congr hresolve, parts, flatMap_chars_partsFrom, pending,
    List.nil_append, String.ofList_toList]

/-- The laws reach every text. -/
theorem eq_substitute_of_laws {captures : Captures} {f : String → String}
    (hwritten : ∀ before name after, isIdentifier name.toList = true →
      f (before ++ written name ++ after) = f before ++ (captures.get? name).getD "" ++ f after)
    (hplain : ∀ text, (∀ name, ¬Refers text name) → f text = text) (text : String) :
    f text = substitute captures text := by
  -- on the length of the text, since both sides of a reference are shorter than the whole
  induction hlength : text.length using Nat.strong_induction_on generalizing text with
  | _ length ih =>
    by_cases hrefers : ∃ name, Refers text name
    · obtain ⟨name, hname, before, after, rfl⟩ := hrefers
      rw [length_append_written] at hlength
      rw [hwritten before name after hname, substitute_append_written captures hname,
        ih before.length (by omega) before rfl, ih after.length (by omega) after rfl]
    · have hnone : ∀ name, ¬Refers text name := not_exists.mp hrefers
      rw [hplain text hnone, substitute_eq_self captures hnone]

/-- **Substitution is what its two laws say.** -/
theorem eq_substitute_iff (captures : Captures) (f : String → String) :
    f = substitute captures ↔
      (∀ before name after, isIdentifier name.toList = true →
        f (before ++ written name ++ after) =
          f before ++ (captures.get? name).getD "" ++ f after) ∧
      ∀ text, (∀ name, ¬Refers text name) → f text = text := by
  constructor
  · rintro rfl
    exact ⟨fun before name after hname ↦ substitute_append_written captures hname before after,
      fun text hnone ↦ substitute_eq_self captures hnone⟩
  · rintro ⟨hwritten, hplain⟩
    exact funext fun text ↦ eq_substitute_of_laws hwritten hplain text

/-- Two braces that open nothing stand before the reference, and what is put in for it looks like a
reference itself. -/
theorem eq_substitute_iff_of_nested :
    isIdentifier "x".toList = true ∧
    substitute (NameMap.empty.insert "x" "\x7bx\x7d") ("\x7b\x7ba" ++ written "x" ++ "\x7d") =
      "\x7b\x7ba" ++ "\x7bx\x7d" ++ "\x7d" := by
  have hlaws := (eq_substitute_iff (NameMap.empty.insert "x" "\x7bx\x7d") _).mp rfl
  refine ⟨by decide, ?_⟩
  rw [hlaws.1 "\x7b\x7ba" "x" "\x7d" (by decide), NameMap.get?_insert_self, Option.getD_some]
  rfl

end Phrasebook.Substitution
