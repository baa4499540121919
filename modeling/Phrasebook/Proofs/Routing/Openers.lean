import Phrasebook.Proofs.Opener.Longest
import Phrasebook.Proofs.Routing.Case
import Phrasebook.Proofs.Text.Blank

/-!
# Openers make no difference

A request that has the form of a phrase keeps its outcome when it is wrapped in an opener. One
opener is dropped, the longest that is there, so what is left is the request again, even when that
starts with an opener of its own. The wrapped request must not have the form of a phrase itself, and
the opener must not be the beginning of a longer one that the request goes on with.

## Two directions

`Wraps.strip_whole` starts from an opener and says that it is what is dropped;
`exists_drops` starts from what was dropped and says that it was an opener. Both rest on
the same description of the search, that it finds the longest opener.
-/

namespace Phrasebook

open Text

namespace Opener

/-! ## An opener that is put in front -/

theorem exists_head_of_mem_openers {opener : String} (h : opener ∈ openers) :
    ∃ c ∈ opener.toList.head?, isBlank c = false := by
  -- said of the openers by a computation, since there are too many characters to go through
  have hall : openers.all (fun opener ↦ opener.toList.head?.any fun c ↦ !isBlank c) = true := by
    decide +kernel
  obtain ⟨c, hc, hblank⟩ := Option.any_eq_true _ _ |>.mp (List.all_eq_true.mp hall opener h)
  exact ⟨c, hc, by simpa using hblank⟩

/-- A trimmed request has an opener in front of it, in any case and with blanks in between, and no
longer opener opens the whole. -/
structure Wraps (opener spoken blanks request : String) : Prop where
  mem : opener ∈ openers
  variant : CaseVariant spoken.toList opener.toList
  separate : blanks ≠ ""
  blank : ∀ c ∈ blanks.toList, isBlank c = true
  trimmed : trim request = request
  nonempty : request ≠ ""
  longest : ∀ other ∈ openers, opener.length < other.length →
    ∀ said left : String, spoken ++ blanks ++ request = said ++ left →
      ¬Opens other.toList said.toList left.toList

namespace Wraps

variable {opener spoken blanks request : String}

theorem opens (h : Wraps opener spoken blanks request) :
    Opens opener.toList spoken.toList (blanks ++ request).toList := by
  refine ⟨h.variant, fun c hc ↦ isAlphanumeric_of_isBlank (h.blank c ?_)⟩
  have hblanks : blanks.toList ≠ [] := by simpa using h.separate
  rw [String.toList_append, List.head?_append_of_ne_nil _ hblanks] at hc
  exact List.mem_of_mem_head? hc

theorem trimChars_request (h : Wraps opener spoken blanks request) :
    trimChars request.toList = request.toList := by
  rw [← String.toList_ofList (l := trimChars request.toList), ← trim, h.trimmed]

/-- The whole starts with its opener and ends like the request, so nothing is trimmed. -/
theorem trimChars_whole (h : Wraps opener spoken blanks request) :
    trimChars (spoken ++ blanks ++ request).toList = (spoken ++ blanks ++ request).toList := by
  obtain ⟨first, hfirst, hblank⟩ := exists_head_of_mem_openers h.mem
  have hspoken : spoken.toList.head?.map isBlank = some false := by
    rw [h.variant.map_head?_eq isBlank_toLower, hfirst, Option.map_some, hblank]
  obtain ⟨c, hc, hcblank⟩ := Option.map_eq_some_iff.mp hspoken
  have hrequest : request.toList ≠ [] := by simpa using h.nonempty
  rw [String.toList_append, String.toList_append]
  apply trimChars_eq_self
  · intro d hd
    rw [List.append_assoc, List.head?_append, hc, Option.some_or] at hd
    rwa [← Option.mem_some_iff.mp hd]
  · intro d hd
    rw [List.getLast?_append_of_ne_nil _ hrequest] at hd
    exact isBlank_getLast?_trimChars d (by rwa [h.trimChars_request])

theorem trim_whole (h : Wraps opener spoken blanks request) :
    trim (spoken ++ blanks ++ request) = spoken ++ blanks ++ request := by
  rw [trim, h.trimChars_whole, String.ofList_toList]

theorem afterLongest?_whole (h : Wraps opener spoken blanks request) :
    afterLongest? (spoken ++ blanks ++ request).toList = some (blanks ++ request).toList := by
  have hsplit : (spoken ++ blanks ++ request).toList =
      spoken.toList ++ (blanks ++ request).toList := by
    rw [String.append_assoc, String.toList_append]
  refine afterLongest?_eq_some_iff.mpr ⟨opener, h.mem, ?_, ?_⟩
  · rw [hsplit, h.opens.afterWords?_append]
  · intro other hother hopens
    by_contra hlonger
    obtain ⟨left, hleft⟩ := Option.ne_none_iff_exists'.mp hopens
    obtain ⟨said, hsaid, hother'⟩ := afterWords?_eq_some_iff.mp hleft
    refine h.longest other hother (Nat.lt_of_not_le hlonger) (String.ofList said)
      (String.ofList left) ?_ (by simpa using hother')
    rw [← String.toList_inj, hsaid, String.toList_append, String.toList_ofList,
      String.toList_ofList]

/-- **The opener is what is dropped**, and nothing else is. -/
theorem strip_whole (h : Wraps opener spoken blanks request) :
    strip (spoken ++ blanks ++ request) = request := by
  rw [← String.toList_inj, toList_strip, h.trimChars_whole, h.afterLongest?_whole,
    Option.map_some, Option.getD_some, String.toList_append, trimChars_append_of_blank h.blank,
    h.trimChars_request]

theorem request_ne_whole (h : Wraps opener spoken blanks request) :
    request ≠ spoken ++ blanks ++ request := by
  have hblanks : blanks.length ≠ 0 := by simpa using h.separate
  intro heq
  have hlength := congrArg String.length heq
  rw [String.length_append, String.length_append] at hlength
  omega

end Wraps

/-! ## An opener that was dropped -/

/-- What is `spoken` at the front of a request is dropped as an opener: it ends where a word ends,
as many bytes into the text as the opener has, and what is left is the `rest` without blanks around.
No other opener that stands there is longer. -/
structure Drops (request opener spoken rest : String) : Prop where
  mem : opener ∈ openers
  split : trim request = spoken ++ rest
  opens : Opens opener.toList spoken.toList rest.toList
  strip_eq : strip request = trim rest
  size : spoken.utf8ByteSize = opener.utf8ByteSize
  boundary : String.Pos.Raw.IsValid (trim request) ⟨opener.utf8ByteSize⟩
  longest : ∀ other ∈ openers, ∀ said left : String, trim request = said ++ left →
    Opens other.toList said.toList left.toList → other.length ≤ opener.length

/-- **What is dropped is the longest opener.** -/
theorem exists_drops {request : String} (h : strip request ≠ trim request) :
    ∃ opener spoken rest, Drops request opener spoken rest := by
  have htrim : (trim request).toList = trimChars request.toList := String.toList_ofList
  have hstrip := toList_strip request
  rcases hlongest : afterLongest? (trimChars request.toList) with _ | left
  · rw [hlongest, Option.map_none, Option.getD_none, ← htrim, String.toList_inj] at hstrip
    exact absurd hstrip h
  · rw [hlongest, Option.map_some, Option.getD_some] at hstrip
    obtain ⟨opener, hmem, hopener, hbest⟩ := afterLongest?_eq_some_iff.mp hlongest
    obtain ⟨said, hsaid, hopens⟩ := afterWords?_eq_some_iff.mp hopener
    have hsplit : trim request = String.ofList said ++ String.ofList left := by
      rw [trim, hsaid, String.ofList_append]
    have hsize : (String.ofList said).utf8ByteSize = opener.utf8ByteSize :=
      CaseVariant.utf8ByteSize_eq (by simpa using hopens.variant)
    refine ⟨opener, String.ofList said, String.ofList left, hmem, hsplit, by simpa using hopens, ?_,
      hsize, ?_, ?_⟩
    · rw [← String.toList_inj, hstrip, trim, String.toList_ofList, String.toList_ofList]
    · refine String.Pos.Raw.isValid_iff_exists_append.mpr ⟨_, _, hsplit, ?_⟩
      rw [← hsize]
      rfl
    · intro other hother said' left' hsplit' hopens'
      refine hbest other hother ?_
      rw [← htrim, hsplit', String.toList_append, hopens'.afterWords?_append]
      exact Option.some_ne_none _

end Opener

namespace Routing

/-! ## The stages -/

/-- The first stage finds nothing in the whole, and the second looks at the request alone. -/
theorem rematch_whole {entries : List Entry} {opener spoken blanks request : String}
    (h : Opener.Wraps opener spoken blanks request) :
    rematch entries (spoken ++ blanks ++ request) = bestExact entries request := by
  rw [rematch, h.strip_whole, if_neg (not_or.mpr ⟨h.nonempty, h.request_ne_whole⟩)]

/-- **Openers.** A request that some phrase has the form of is answered in the same way with an
opener in front of it, with the same id, captures and plan: unless the whole has the form of a
phrase, too, one opener is dropped from it. Whatever is dropped from a request is the longest opener
that stands at its front as whole words; it ends between two characters, and what is left is all
that follows, trimmed. -/
theorem route_wrapped (entries : List Entry) (limit : Nat) :
    (∀ opener spoken blanks request : String, Opener.Wraps opener spoken blanks request →
      Hits entries request → ¬Hits entries (spoken ++ blanks ++ request) →
      ∃ id captures plan,
        route entries request limit = .matched id .exact captures plan ∧
        route entries (spoken ++ blanks ++ request) limit =
          .matched id .exactStripped captures plan) ∧
    ∀ request, Opener.strip request ≠ trim request →
      ∃ opener spoken rest, Opener.Drops request opener spoken rest := by
  refine ⟨?_, fun request ↦ Opener.exists_drops⟩
  intro opener spoken blanks request hwraps hhits hmiss
  have hsome : bestExact entries request ≠ none :=
    fun hnone ↦ bestExact_eq_none_iff.mp hnone hhits
  obtain ⟨found, hfound⟩ := Option.ne_none_iff_exists'.mp hsome
  have hwhole : spoken ++ blanks ++ request ≠ "" := by
    intro hempty
    obtain ⟨-, -, hrequest⟩ : spoken = "" ∧ blanks = "" ∧ request = "" := by
      simpa using congrArg String.toList hempty
    exact hwraps.nonempty hrequest
  refine ⟨found.entry.id, found.captures, found.entry.definition.plan found.captures, ?_, ?_⟩
  · rw [route_eq, hwraps.trimmed, if_neg hwraps.nonempty, hfound, Option.map_some,
      Option.getD_some, resolutionOf]
  · rw [route_eq, hwraps.trim_whole, if_neg hwhole, bestExact_eq_none_iff.mpr hmiss,
      Option.map_none, Option.getD_none, rematch_whole hwraps, hfound, Option.map_some,
      Option.getD_some, resolutionOf]

/-- The request starts with an opener of its own, which is not dropped. The one in front of it is
the beginning of longer ones, and it is spoken in another case. -/
theorem route_wrapped_of_nested :
    let entries := (Snapshot.build 1 [{ pattern := "show \x7bthing\x7d" }]).entries
    let whole := "WHAT is" ++ "\n\u00a0" ++ "show tasks"
    Opener.Wraps "what is" "WHAT is" "\n\u00a0" "show tasks" ∧ Hits entries "show tasks" ∧
    ¬Hits entries whole ∧ Opener.strip whole ≠ trim whole ∧
    (∃ id captures plan, route entries "show tasks" 3 = .matched id .exact captures plan ∧
      route entries whole 3 = .matched id .exactStripped captures plan) ∧
    ∃ opener spoken rest, Opener.Drops whole opener spoken rest := by
  intro entries whole
  have hlonger : ∀ other ∈ Opener.openers, "what is".length < other.length →
      Opener.afterWords? whole.toList other.toList = none := by decide +kernel
  have hwraps : Opener.Wraps "what is" "WHAT is" "\n\u00a0" "show tasks" := by
    refine ⟨by decide, by decide, by decide, List.all_eq_true.mp (by decide), by decide +kernel,
      by decide, ?_⟩
    intro other hother hlength said left hsplit hopens
    have hnone := hlonger other hother hlength
    rw [show whole.toList = said.toList ++ left.toList by
      rw [← String.toList_append, ← hsplit], hopens.afterWords?_append] at hnone
    cases hnone
  have hhits : Hits entries "show tasks" := by
    rw [← not_not (a := Hits _ _), ← bestExact_eq_none_iff]
    decide +kernel
  have hmiss : ¬Hits entries whole := by
    rw [← bestExact_eq_none_iff]
    decide +kernel
  have hstrip : Opener.strip whole ≠ trim whole := by decide +kernel
  obtain ⟨hroute, hdrops⟩ := route_wrapped entries 3
  exact ⟨hwraps, hhits, hmiss, hstrip, hroute _ _ _ _ hwraps hhits hmiss, hdrops whole hstrip⟩

end Routing

end Phrasebook
