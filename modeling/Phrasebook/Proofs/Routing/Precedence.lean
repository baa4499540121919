import Mathlib.Data.List.Nodup
import Mathlib.Data.Prod.Lex
import Mathlib.Data.String.Basic
import Phrasebook.Proofs.Pattern.Filled
import Phrasebook.Proofs.Routing.Outcome

/-!
# The winner among exact matches

When several phrases have the form of a request, one of them wins: the one with the least `rank`,
which is a value in a linear order. Entries of one snapshot have different places and so different
ranks. There is one winner, and it does not depend on the order in which matches are compared.

## Every alias answers

A template that is filled in has its own form, whatever the values are. So the alias that it comes
from is among those that may win, and the request is answered by this alias or by one that goes
before it. If it wins and has one placeholder, the value comes back as it was written.
-/

namespace Phrasebook

/-! ## The order of exact matches -/

/-- Where an entry stands among those that match: lower priority first, then the layers of a few
before the public one, then later definition. -/
def Entry.rank (entry : Entry) : ℤ ×ₗ Bool ×ₗ ℕᵒᵈ :=
  toLex (entry.definition.priority.toInt,
    toLex (entry.definition.isPublic, OrderDual.toDual entry.position))

namespace Routing

/-- One level of the comparison: only equal values leave the decision to the levels below. -/
theorem match_compare_iff {κ : Type} [LinearOrder κ] (x y : κ) (below : Bool) :
    (match compare x y with
      | .lt => true
      | .gt => false
      | .eq => below) = true ↔ x < y ∨ x = y ∧ below = true := by
  cases h : compare x y with
  | lt => exact iff_of_true rfl (Or.inl (compare_lt_iff_lt.mp h))
  | gt =>
    have hgt : y < x := compare_gt_iff_gt.mp h
    exact iff_of_false Bool.false_ne_true (not_or.mpr ⟨hgt.asymm, fun hle ↦ hgt.ne' hle.1⟩)
  | eq =>
    obtain rfl := compare_eq_iff_eq.mp h
    simp

/-- The level of the layers, where a match on both sides stands for a comparison. -/
theorem match_isPublic_iff (x y below : Bool) :
    (match x, y with
      | false, true => true
      | true, false => false
      | _, _ => below) = true ↔ x < y ∨ x = y ∧ below = true := by
  cases x <;> cases y <;> simp

end Routing

theorem Entry.precedes_iff {a b : Entry} : a.precedes b = true ↔ a.rank < b.rank := by
  rw [Entry.rank, Entry.rank, Prod.Lex.toLex_lt_toLex, Prod.Lex.toLex_lt_toLex,
    OrderDual.toDual_lt_toDual, Entry.precedes]
  refine (Routing.match_compare_iff _ _ _).trans (or_congr_right (and_congr_right fun _ ↦ ?_))
  refine (Routing.match_isPublic_iff _ _ _).trans (or_congr_right (and_congr_right fun _ ↦ ?_))
  exact decide_eq_true_iff

theorem Entry.position_eq_of_rank_eq {a b : Entry} (h : a.rank = b.rank) :
    a.position = b.position :=
  congrArg (fun rank : ℤ ×ₗ Bool ×ₗ ℕᵒᵈ ↦ OrderDual.ofDual (ofLex (ofLex rank).2).2) h

namespace Routing

/-- Choosing keeps the least rank. -/
theorem foldl_precedes_le (rest : List ExactMatch) : ∀ first : ExactMatch,
    ∀ found ∈ first :: rest,
      (rest.foldl (fun chosen found ↦
        if found.entry.precedes chosen.entry then found else chosen) first).entry.rank ≤
        found.entry.rank := by
  induction rest with
  | nil =>
    intro first found hfound
    rw [List.mem_singleton.mp hfound]
    exact le_refl _
  | cons next rest ih =>
    intro first found hfound
    rw [List.foldl_cons]
    by_cases hnext : next.entry.precedes first.entry = true
    · rw [if_pos hnext]
      rcases List.mem_cons.mp hfound with rfl | hrest
      · exact (ih next next List.mem_cons_self).trans (Entry.precedes_iff.mp hnext).le
      · exact ih next found hrest
    · rw [if_neg hnext]
      rw [Entry.precedes_iff, not_lt] at hnext
      rcases List.mem_cons.mp hfound with rfl | hrest
      · exact ih found found List.mem_cons_self
      · rcases List.mem_cons.mp hrest with rfl | hlater
        · exact (ih first first List.mem_cons_self).trans hnext
        · exact ih first found (List.mem_cons_of_mem first hlater)

theorem best_le : ∀ {choices : List ExactMatch} {found : ExactMatch}, best choices = some found →
    ∀ other ∈ choices, found.entry.rank ≤ other.entry.rank
  | [], _, h => by cases h
  | first :: rest, found, h => by
    rw [best, Option.some_inj] at h
    rw [← h]
    exact foldl_precedes_le rest first

/-- **Among entries of which one matches there is a winner**, and none that matches goes before
it. -/
theorem exists_bestExact {entries : List Entry} {text : String} (h : Hits entries text) :
    ∃ found, bestExact entries text = some found ∧ found.entry ∈ entries ∧
      found.entry.pattern.captures? text = some found.captures ∧
      ∀ other ∈ entries, other.pattern.isMatch text = true →
        found.entry.rank ≤ other.rank := by
  have hsome : bestExact entries text ≠ none := fun hnone ↦ bestExact_eq_none_iff.mp hnone h
  obtain ⟨found, hfound⟩ := Option.ne_none_iff_exists'.mp hsome
  obtain ⟨-, hmem, hcaptures⟩ := of_bestExact_eq_some hfound
  refine ⟨found, hfound, hmem, hcaptures, fun other hother hmatch ↦ ?_⟩
  obtain ⟨captures, hothers⟩ := isMatch_iff_captures?.mp hmatch
  exact best_le hfound ⟨other, captures⟩ (mem_matches_iff.mpr ⟨hother, hothers⟩)

end Routing

/-- Among entries at different places the rank tells which one it is. -/
theorem Entry.eq_of_rank_eq {entries : List Entry}
    (h : entries.Pairwise fun a b ↦ a.position ≠ b.position) {a b : Entry} (ha : a ∈ entries)
    (hb : b ∈ entries) (hrank : a.rank = b.rank) : a = b := by
  have hnodup : (entries.map (·.position)).Nodup := List.pairwise_map.mpr h
  exact List.inj_on_of_nodup_map hnodup ha hb (position_eq_of_rank_eq hrank)

theorem Snapshot.Indexed.eq_of_rank_eq {snapshot : Snapshot} (h : snapshot.Indexed)
    {a b : Entry} (ha : a ∈ snapshot.entries) (hb : b ∈ snapshot.entries)
    (hrank : a.rank = b.rank) : a = b :=
  Entry.eq_of_rank_eq (h.ascending.imp Nat.ne_of_lt) ha hb hrank

/-! ## Every alias answers -/

namespace Routing

open Pattern

/-- A request that has no blanks at its ends and some match is answered with the winner as it is. -/
theorem exists_route_eq_matched {entries : List Entry} {text : List Char} (hne : text ≠ [])
    (hfirst : ∀ c ∈ text.head?, Text.isBlank c = false)
    (hlast : ∀ c ∈ text.getLast?, Text.isBlank c = false)
    (h : Hits entries (String.ofList text)) (limit : Nat) :
    ∃ winner ∈ entries, ∃ captures,
      route entries (String.ofList text) limit =
        .matched winner.id .exact captures (winner.definition.plan captures) ∧
      winner.pattern.captures? (String.ofList text) = some captures ∧
      ∀ other ∈ entries, other.pattern.isMatch (String.ofList text) = true →
        winner.rank ≤ other.rank := by
  obtain ⟨found, hfound, hmem, hcaptures, hbest⟩ := exists_bestExact h
  have htrim : Text.trim (String.ofList text) = String.ofList text := by
    rw [Text.trim, String.toList_ofList, Text.trimChars_eq_self hfirst hlast]
  have hsome : String.ofList text ≠ "" := by
    rwa [ne_eq, ← String.toList_eq_nil_iff, String.toList_ofList]
  refine ⟨found.entry, hmem, found.captures, ?_, hcaptures, hbest⟩
  rw [route_eq, htrim, if_neg hsome, hfound, Option.map_some, Option.getD_some, resolutionOf]

/-- **Every alias answers to its own template, filled in.** The literals may be written in any case,
and the values may be anything but empty. If the text has no blanks at its ends, then it is matched
exactly, by the alias or by one that goes before it, and the winner goes before all others that
match. If the alias wins and has one placeholder, what it captures is the value that was written. -/
theorem resolve_build_answers {version : UInt64} {aliases : List Alias} {scope : Scope}
    {entry : Entry} (hentry : entry ∈ (Snapshot.build version aliases).eligible scope)
    {pieces : List (List Char)}
    (hpieces : List.Forall₂ Segment.WrittenAs entry.pattern.segments pieces)
    (hne : pieces.flatten ≠ []) (hfirst : ∀ c ∈ pieces.flatten.head?, Text.isBlank c = false)
    (hlast : ∀ c ∈ pieces.flatten.getLast?, Text.isBlank c = false) (limit : Nat) :
    let snapshot := Snapshot.build version aliases
    let text := String.ofList pieces.flatten
    ∃ winner ∈ snapshot.eligible scope, ∃ captures,
      snapshot.resolve text scope limit =
        .matched winner.id .exact captures (winner.definition.plan captures) ∧
      winner.pattern.captures? text = some captures ∧
      (winner = entry ∨ winner.rank < entry.rank) ∧
      (∀ other ∈ snapshot.eligible scope, other.pattern.isMatch text = true →
        winner.rank ≤ other.rank) ∧
      (winner = entry → ∀ name value, placeholderNames entry.pattern.segments = [name] →
        (.placeholder name, value) ∈ entry.pattern.segments.zip pieces →
          captures.get? name = some (String.ofList value)) := by
  intro snapshot text
  have hindexed : snapshot.Indexed := Snapshot.indexed_build version aliases
  have hmatch : entry.pattern.isMatch text = true := isMatch_of_writtenAs hpieces
  obtain ⟨winner, hwinner, captures, hroute, hcaptures, hbest⟩ :=
    exists_route_eq_matched hne hfirst hlast ⟨entry, hentry, hmatch⟩ limit
  refine ⟨winner, hwinner, captures, hroute, hcaptures, ?_, hbest, ?_⟩
  · rcases (hbest entry hentry hmatch).eq_or_lt with hrank | hrank
    · have hplaces := hindexed.eq_of_rank_eq (hindexed.mem_eligible_iff.mp hwinner).1
        (hindexed.mem_eligible_iff.mp hentry).1 hrank
      exact Or.inl hplaces
    · exact Or.inr hrank
  · rintro rfl name value hone hvalue
    have hcuts : Template.Cuts winner.pattern.segments pieces text.toList := by
      rw [String.toList_ofList]
      exact Template.cuts_of_writtenAs hpieces
    exact get?_of_only_placeholder hcaptures hone hcuts hvalue

/-- The value looks like the template that it is written into, and another alias matches, too. -/
theorem resolve_build_answers_of_echo :
    let snapshot := Snapshot.build 1
      [{ pattern := "add \x7btitle\x7d" }, { pattern := "\x7bwish\x7d", priority := 5 }]
    ∃ captures plan,
      snapshot.resolve "aDD \x7btitle\x7d\nADD add" {} 3 =
        .matched "public:add \x7btitle\x7d" .exact captures plan ∧
      captures.get? "title" = some "\x7btitle\x7d\nADD add" := by
  intro snapshot
  let value := "\x7btitle\x7d\nADD add".toList
  let entry := snapshot.entries.get ⟨0, by decide +kernel⟩
  have hindexed : snapshot.Indexed := Snapshot.indexed_build 1 _
  have hmem : entry ∈ snapshot.eligible {} :=
    hindexed.mem_eligible_iff.mpr ⟨List.get_mem _ _, by decide +kernel⟩
  have hsegments : entry.pattern.segments = [.literal "add ", .placeholder "title"] := by
    decide +kernel
  have hpieces : List.Forall₂ Segment.WrittenAs entry.pattern.segments ["aDD ".toList, value] := by
    rw [hsegments]
    exact .cons (by decide) (.cons (by decide) .nil)
  have hbefore : ∀ other ∈ snapshot.entries, ¬other.precedes entry = true := by decide +kernel
  obtain ⟨winner, hwinner, captures, hroute, -, hrank, -, hvalue⟩ :=
    resolve_build_answers hmem hpieces (by decide) (by rintro _ ⟨⟩; decide)
      (by rintro _ ⟨⟩; decide) 3
  have hentry : winner = entry := by
    refine hrank.resolve_right fun hlt ↦ ?_
    exact hbefore winner (hindexed.mem_eligible_iff.mp hwinner).1 (Entry.precedes_iff.mpr hlt)
  have hid : entry.id = "public:add \x7btitle\x7d" := by decide +kernel
  refine ⟨captures, winner.definition.plan captures, ?_, hvalue hentry "title" value ?_ ?_⟩
  · rw [← hid, ← hentry]
    exact hroute
  · rw [hsegments]
    rfl
  · rw [hsegments]
    exact List.mem_cons_of_mem _ List.mem_cons_self

end Routing

end Phrasebook
