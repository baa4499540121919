/-!
# Sets and maps of names

Names are compared character by character, which is also the order of their UTF-8 bytes. A set of
names and a map from names keep that order in their type: both are lists that ascend strictly, so
two of them with the same members are the same list and every listing of them is sorted.
-/

namespace Phrasebook

/-! ## Ascending association lists -/

namespace NameMap

variable {β : Type}

/-- Puts `value` under `name` into an ascending list, replacing what stood there. -/
def insertEntry (name : String) (value : β) : List (String × β) → List (String × β)
  | [] => [(name, value)]
  | entry :: rest =>
    if name < entry.1 then (name, value) :: entry :: rest
    else if entry.1 < name then entry :: insertEntry name value rest
    else (name, value) :: rest

theorem mem_of_mem_insertEntry {name : String} {value : β} {entries : List (String × β)}
    {entry : String × β} (h : entry ∈ insertEntry name value entries) :
    entry = (name, value) ∨ entry ∈ entries := by
  induction entries with
  | nil => exact Or.inl (List.mem_singleton.mp h)
  | cons first rest ih =>
    simp only [insertEntry] at h
    split at h
    · exact List.mem_cons.mp h
    · split at h
      · rcases List.mem_cons.mp h with rfl | h
        · exact Or.inr List.mem_cons_self
        · exact (ih h).imp_right (List.mem_cons_of_mem _)
      · exact (List.mem_cons.mp h).imp_right (List.mem_cons_of_mem _)

theorem fst_of_mem_insertEntry {name : String} {value : β} {entries : List (String × β)}
    {entry : String × β} (h : entry ∈ insertEntry name value entries) :
    entry.1 = name ∨ entry ∈ entries :=
  (mem_of_mem_insertEntry h).imp_left (congrArg Prod.fst)

/-- A name beyond all others goes to the end. -/
theorem insertEntry_eq_append {name : String} (value : β) {entries : List (String × β)}
    (h : ∀ entry ∈ entries, entry.1 < name) :
    insertEntry name value entries = entries ++ [(name, value)] := by
  induction entries with
  | nil => rfl
  | cons first rest ih =>
    have hlt : first.1 < name := h first List.mem_cons_self
    rw [insertEntry, if_neg (String.lt_asymm hlt), if_pos hlt, List.cons_append,
      ih fun entry hentry ↦ h entry (List.mem_cons_of_mem _ hentry)]

theorem pairwise_insertEntry (name : String) (value : β) {entries : List (String × β)}
    (h : entries.Pairwise fun a b ↦ a.1 < b.1) :
    (insertEntry name value entries).Pairwise fun a b ↦ a.1 < b.1 := by
  induction entries with
  | nil => simp [insertEntry]
  | cons first rest ih =>
    obtain ⟨hfirst, hrest⟩ := List.pairwise_cons.mp h
    simp only [insertEntry]
    split
    · rename_i hlt
      refine List.pairwise_cons.mpr ⟨fun b hb ↦ ?_, h⟩
      rcases List.mem_cons.mp hb with rfl | hb
      · exact hlt
      · exact String.lt_trans hlt (hfirst b hb)
    · rename_i hnot
      split
      · rename_i hgt
        refine List.pairwise_cons.mpr ⟨fun b hb ↦ ?_, ih hrest⟩
        rcases fst_of_mem_insertEntry hb with hb | hb
        · rw [hb]; exact hgt
        · exact hfirst b hb
      · rename_i hnot'
        have heq : name = first.1 :=
          String.le_antisymm (String.not_lt.mp hnot') (String.not_lt.mp hnot)
        refine List.pairwise_cons.mpr ⟨fun b hb ↦ ?_, hrest⟩
        show name < b.1
        rw [heq]
        exact hfirst b hb

theorem lookup_insertEntry_self (name : String) (value : β) (entries : List (String × β)) :
    (insertEntry name value entries).lookup name = some value := by
  induction entries with
  | nil => simp [insertEntry]
  | cons first rest ih =>
    rw [insertEntry]
    split
    · exact List.lookup_cons_self
    · split
      · rename_i hlt
        have hne : (name == first.1) = false := beq_eq_false_iff_ne.mpr (String.ne_of_lt hlt).symm
        rw [List.lookup_cons, hne, ih]
      · exact List.lookup_cons_self

theorem lookup_insertEntry_of_ne {name other : String} (h : other ≠ name) (value : β)
    (entries : List (String × β)) :
    (insertEntry name value entries).lookup other = entries.lookup other := by
  have hne : (other == name) = false := beq_eq_false_iff_ne.mpr h
  induction entries with
  | nil => simp [insertEntry, hne, List.lookup_cons]
  | cons first rest ih =>
    rw [insertEntry]
    split
    · rw [List.lookup_cons, hne]
    · rename_i hnot
      split
      · rw [List.lookup_cons, List.lookup_cons, ih]
      · rename_i hnot'
        have heq : name = first.1 :=
          String.le_antisymm (String.not_lt.mp hnot') (String.not_lt.mp hnot)
        rw [List.lookup_cons, List.lookup_cons, ← heq, hne]

theorem lookup_map_snd {γ : Type} (f : β → γ) (name : String) (entries : List (String × β)) :
    (entries.map fun entry ↦ (entry.1, f entry.2)).lookup name = (entries.lookup name).map f := by
  induction entries with
  | nil => rfl
  | cons first rest ih =>
    rw [List.map_cons, List.lookup_cons, List.lookup_cons, ih]
    cases name == first.1 with
    | true => rfl
    | false => rfl

end NameMap

/-! ## Maps -/

/-- Values under distinct names, listed in ascending order of the names. -/
structure NameMap (β : Type) where
  entries : List (String × β)
  ascending : entries.Pairwise fun a b ↦ a.1 < b.1

namespace NameMap

variable {β γ : Type}

/-- The map without entries. -/
def empty : NameMap β := ⟨[], List.Pairwise.nil⟩

instance : EmptyCollection (NameMap β) := ⟨empty⟩

instance : Inhabited (NameMap β) := ⟨empty⟩

/-- Puts `value` under `name`, replacing what stood there. -/
def insert (map : NameMap β) (name : String) (value : β) : NameMap β :=
  ⟨insertEntry name value map.entries, pairwise_insertEntry name value map.ascending⟩

/-- The value under `name`. -/
def get? (map : NameMap β) (name : String) : Option β := map.entries.lookup name

/-- Whether there is a value under `name`. -/
def contains (map : NameMap β) (name : String) : Bool := (map.get? name).isSome

/-- The names that have a value. -/
def keys (map : NameMap β) : List String := map.entries.map (·.1)

/-- Whether there is no entry. -/
def isEmpty (map : NameMap β) : Bool := map.entries.isEmpty

/-- The map holding the entries of a list; of two under one name the later stays. -/
def ofList (entries : List (String × β)) : NameMap β :=
  entries.foldl (fun map entry ↦ map.insert entry.1 entry.2) empty

/-- The same names with their values changed by `f`. -/
def mapValues (f : β → γ) (map : NameMap β) : NameMap γ :=
  ⟨map.entries.map fun entry ↦ (entry.1, f entry.2), List.pairwise_map.mpr map.ascending⟩

@[ext] theorem ext {a b : NameMap β} (h : a.entries = b.entries) : a = b := by
  cases a; cases b; simp_all

theorem mem_of_mem_ofList {entries : List (String × β)} {entry : String × β}
    (h : entry ∈ (ofList entries).entries) : entry ∈ entries := by
  have hfold : ∀ (rest : List (String × β)) (map : NameMap β),
      entry ∈ (rest.foldl (fun map entry ↦ map.insert entry.1 entry.2) map).entries →
        entry ∈ map.entries ∨ entry ∈ rest := by
    intro rest
    induction rest with
    | nil => exact fun map hmem ↦ Or.inl hmem
    | cons first rest ih =>
      intro map hmem
      rcases ih _ hmem with hmap | hrest
      · rcases mem_of_mem_insertEntry hmap with rfl | hmap
        · exact Or.inr List.mem_cons_self
        · exact Or.inl hmap
      · exact Or.inr (List.mem_cons_of_mem _ hrest)
  exact (hfold entries empty h).resolve_left List.not_mem_nil

@[simp] theorem ofList_entries (map : NameMap β) : ofList map.entries = map := by
  have hfold : ∀ (rest : List (String × β)) (start : NameMap β),
      (start.entries ++ rest).Pairwise (fun a b ↦ a.1 < b.1) →
        (rest.foldl (fun map entry ↦ map.insert entry.1 entry.2) start).entries =
          start.entries ++ rest := by
    intro rest
    induction rest with
    | nil => exact fun start _ ↦ (List.append_nil _).symm
    | cons first rest ih =>
      intro start hascending
      have hlast : ∀ entry ∈ start.entries, entry.1 < first.1 := fun entry hentry ↦
        (List.pairwise_append.mp hascending).2.2 entry hentry first List.mem_cons_self
      have hinsert : (start.insert first.1 first.2).entries = start.entries ++ [first] :=
        insertEntry_eq_append first.2 hlast
      rw [List.foldl_cons, ih, hinsert, List.append_assoc, List.singleton_append]
      rwa [hinsert, List.append_assoc, List.singleton_append]
  exact ext (hfold map.entries empty map.ascending)

@[simp] theorem keys_mapValues (f : β → γ) (map : NameMap β) :
    (map.mapValues f).keys = map.keys := by
  simp [keys, mapValues, Function.comp_def]

@[simp] theorem get?_insert_self (map : NameMap β) (name : String) (value : β) :
    (map.insert name value).get? name = some value := lookup_insertEntry_self _ _ _

theorem get?_insert_of_ne (map : NameMap β) {name other : String} (h : other ≠ name) (value : β) :
    (map.insert name value).get? other = map.get? other := lookup_insertEntry_of_ne h _ _

@[simp] theorem get?_mapValues (f : β → γ) (map : NameMap β) (name : String) :
    (map.mapValues f).get? name = (map.get? name).map f := lookup_map_snd f name map.entries

end NameMap

/-! ## Sets -/

/-- Distinct names in ascending order. -/
structure NameSet where
  toList : List String
  ascending : toList.Pairwise (· < ·)
deriving DecidableEq

namespace NameSet

/-- Puts `name` into an ascending list. -/
def insertName (name : String) : List String → List String
  | [] => [name]
  | first :: rest =>
    if name < first then name :: first :: rest
    else if first < name then first :: insertName name rest
    else first :: rest

theorem mem_insertName {name other : String} {names : List String} :
    other ∈ insertName name names ↔ other = name ∨ other ∈ names := by
  induction names with
  | nil => simp [insertName]
  | cons first rest ih =>
    simp only [insertName]
    split
    · simp
    · split
      · simp only [List.mem_cons, ih]
        constructor
        · rintro (h | h | h)
          · exact Or.inr (Or.inl h)
          · exact Or.inl h
          · exact Or.inr (Or.inr h)
        · rintro (h | h | h)
          · exact Or.inr (Or.inl h)
          · exact Or.inl h
          · exact Or.inr (Or.inr h)
      · rename_i h h'
        have heq : name = first :=
          String.le_antisymm (String.not_lt.mp h') (String.not_lt.mp h)
        simp [heq]

theorem pairwise_insertName (name : String) {names : List String} (h : names.Pairwise (· < ·)) :
    (insertName name names).Pairwise (· < ·) := by
  induction names with
  | nil => simp [insertName]
  | cons first rest ih =>
    obtain ⟨hfirst, hrest⟩ := List.pairwise_cons.mp h
    simp only [insertName]
    split
    · rename_i hlt
      refine List.pairwise_cons.mpr ⟨fun b hb ↦ ?_, h⟩
      rcases List.mem_cons.mp hb with rfl | hb
      · exact hlt
      · exact String.lt_trans hlt (hfirst b hb)
    · split
      · rename_i hgt
        refine List.pairwise_cons.mpr ⟨fun b hb ↦ ?_, ih hrest⟩
        rcases mem_insertName.mp hb with rfl | hb
        · exact hgt
        · exact hfirst b hb
      · exact h

/-- The set without names. -/
def empty : NameSet := ⟨[], List.Pairwise.nil⟩

instance : EmptyCollection NameSet := ⟨empty⟩

instance : Inhabited NameSet := ⟨empty⟩

instance : Membership String NameSet := ⟨fun set name ↦ name ∈ set.toList⟩

instance (name : String) (set : NameSet) : Decidable (name ∈ set) :=
  inferInstanceAs (Decidable (name ∈ set.toList))

theorem mem_toList {name : String} {set : NameSet} : name ∈ set.toList ↔ name ∈ set := Iff.rfl

/-- The set with one more name. -/
def insert (set : NameSet) (name : String) : NameSet :=
  ⟨insertName name set.toList, pairwise_insertName name set.ascending⟩

/-- The set with the names of a list besides its own. -/
def insertAll (set : NameSet) (names : List String) : NameSet := names.foldl insert set

/-- The set of the names in a list. -/
def ofList (names : List String) : NameSet := empty.insertAll names

/-- Whether a name belongs to the set. -/
def contains (set : NameSet) (name : String) : Bool := decide (name ∈ set)

/-- Whether there is no name. -/
def isEmpty (set : NameSet) : Bool := set.toList.isEmpty

/-- The names of the set that satisfy `p`. -/
def filter (p : String → Bool) (set : NameSet) : NameSet :=
  ⟨set.toList.filter p, set.ascending.filter p⟩

/-- The names common to two sets. -/
def inter (a b : NameSet) : NameSet := a.filter b.contains

/-- Whether two sets have no name in common. -/
def disjoint (a b : NameSet) : Bool := !a.toList.any b.contains

@[simp] theorem mem_insert {name other : String} {set : NameSet} :
    other ∈ set.insert name ↔ other = name ∨ other ∈ set := mem_insertName

@[simp] theorem mem_insertAll {name : String} {names : List String} {set : NameSet} :
    name ∈ set.insertAll names ↔ name ∈ names ∨ name ∈ set := by
  induction names generalizing set with
  | nil => simp [insertAll]
  | cons first rest ih =>
    show name ∈ (set.insert first).insertAll rest ↔ _
    rw [ih, mem_insert, List.mem_cons]
    constructor
    · rintro (h | h | h)
      · exact Or.inl (Or.inr h)
      · exact Or.inl (Or.inl h)
      · exact Or.inr h
    · rintro ((h | h) | h)
      · exact Or.inr (Or.inl h)
      · exact Or.inl h
      · exact Or.inr (Or.inr h)

@[simp] theorem mem_ofList {name : String} {names : List String} :
    name ∈ ofList names ↔ name ∈ names := by
  rw [ofList, mem_insertAll]
  exact or_iff_left (List.not_mem_nil)

theorem disjoint_eq_false_iff {a b : NameSet} : a.disjoint b = false ↔ ∃ name ∈ a, name ∈ b := by
  simp [disjoint, contains, ← mem_toList]

theorem mem_filter {name : String} {p : String → Bool} {set : NameSet} :
    name ∈ set.filter p ↔ name ∈ set ∧ p name = true := List.mem_filter

@[simp] theorem mem_inter {name : String} {a b : NameSet} :
    name ∈ a.inter b ↔ name ∈ a ∧ name ∈ b := by
  rw [inter, mem_filter, contains, decide_eq_true_iff]

theorem nodup_toList (set : NameSet) : set.toList.Nodup :=
  set.ascending.imp fun {x y} (hlt : x < y) (heq : x = y) ↦ String.lt_irrefl y (heq ▸ hlt)

/-- Two sets with the same members are equal. -/
theorem ext {a b : NameSet} (h : ∀ name, name ∈ a ↔ name ∈ b) : a = b := by
  have hperm : a.toList.Perm b.toList :=
    (List.perm_ext_iff_of_nodup a.nodup_toList b.nodup_toList).mpr h
  have hlist : a.toList = b.toList :=
    hperm.eq_of_pairwise (fun x y _ _ hxy hyx ↦ absurd hyx (String.lt_asymm hxy))
      a.ascending b.ascending
  cases a; cases b; simp_all

theorem eq_empty_iff {set : NameSet} : set = ∅ ↔ ∀ name, name ∉ set := by
  constructor
  · rintro rfl name
    exact List.not_mem_nil
  · intro h
    exact ext fun name ↦ iff_of_false (h name) List.not_mem_nil

@[simp] theorem ofList_toList (set : NameSet) : ofList set.toList = set :=
  ext fun _ ↦ mem_ofList

/-- The listing of a set is the one ascending list of its members. -/
theorem eq_toList_iff {set : NameSet} {names : List String} :
    names = set.toList ↔ names.Pairwise (· < ·) ∧ ∀ name, name ∈ names ↔ name ∈ set := by
  constructor
  · rintro rfl
    exact ⟨set.ascending, fun _ ↦ Iff.rfl⟩
  · rintro ⟨hascending, hmem⟩
    have hset : (⟨names, hascending⟩ : NameSet) = set := ext hmem
    rw [← hset]

end NameSet

end Phrasebook
