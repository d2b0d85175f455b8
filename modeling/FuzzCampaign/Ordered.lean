set_option autoImplicit false

/-! # Maps and sets ordered by name

Environment snapshots, tags and the members of dictionaries are shown in the order of their names. A map
is a list of entries with strictly increasing keys, a set a strictly increasing list; insertion keeps the
order, and a key that is inserted again takes the new value. -/

namespace FuzzCampaign

namespace Entries

variable {α : Type}

/-- Put an entry in its place; an entry of the same key is replaced. -/
def insert (key : String) (value : α) : List (String × α) → List (String × α)
  | [] => [(key, value)]
  | (k, v) :: rest =>
    if key < k then (key, value) :: (k, v) :: rest
    else if key = k then (key, value) :: rest
    else (k, v) :: insert key value rest

/-- The value of a key. -/
def get? (key : String) : List (String × α) → Option α
  | [] => none
  | (k, v) :: rest => if k = key then some v else get? key rest

/-- The entries in order, a later one winning over an earlier one of the same key. -/
def ofList (entries : List (String × α)) : List (String × α) :=
  entries.foldl (fun sorted (k, v) => insert k v sorted) []

/-- Keys strictly increase. -/
def Sorted (entries : List (String × α)) : Prop := entries.Pairwise fun a b => a.1 < b.1

instance (entries : List (String × α)) : Decidable (Sorted entries) :=
  inferInstanceAs (Decidable (entries.Pairwise _))

theorem mem_insert {key : String} {value : α} {entries : List (String × α)} {e : String × α}
    (h : e ∈ insert key value entries) : e = (key, value) ∨ e ∈ entries := by
  induction entries with
  | nil => simpa [insert] using h
  | cons head rest ih =>
    obtain ⟨k, v⟩ := head
    unfold insert at h
    split at h
    · simpa using h
    · split at h
      · rcases List.mem_cons.1 h with h | h
        · exact .inl h
        · exact .inr (List.mem_cons_of_mem _ h)
      · rcases List.mem_cons.1 h with h | h
        · exact .inr (h ▸ List.mem_cons_self)
        · rcases ih h with h | h
          · exact .inl h
          · exact .inr (List.mem_cons_of_mem _ h)

theorem sorted_insert {key : String} {value : α} {entries : List (String × α)}
    (h : Sorted entries) : Sorted (insert key value entries) := by
  induction entries with
  | nil => simp [insert, Sorted]
  | cons head rest ih =>
    obtain ⟨k, v⟩ := head
    obtain ⟨hall, hrest⟩ := List.pairwise_cons.1 h
    unfold insert
    split
    · rename_i hlt
      refine List.pairwise_cons.2 ⟨fun e he => ?_, h⟩
      rcases List.mem_cons.1 he with rfl | he
      · exact hlt
      · exact String.lt_trans hlt (hall e he)
    · split
      · rename_i heq
        subst heq
        exact List.pairwise_cons.2 ⟨fun e he => hall e he, hrest⟩
      · rename_i hge hne
        refine List.pairwise_cons.2 ⟨fun e he => ?_, ih hrest⟩
        rcases mem_insert he with rfl | he
        · exact Std.lt_of_le_of_ne (Std.not_lt.1 hge) (Ne.symm hne)
        · exact hall e he

theorem sorted_foldl_insert {entries sorted : List (String × α)} (h : Sorted sorted) :
    Sorted (entries.foldl (fun s (k, v) => insert k v s) sorted) := by
  induction entries generalizing sorted with
  | nil => exact h
  | cons head rest ih => exact ih (sorted_insert h)

theorem sorted_ofList (entries : List (String × α)) : Sorted (ofList entries) :=
  sorted_foldl_insert List.Pairwise.nil

theorem mem_foldl_insert {entries sorted : List (String × α)} {e : String × α}
    (h : e ∈ entries.foldl (fun s (k, v) => insert k v s) sorted) : e ∈ sorted ∨ e ∈ entries := by
  induction entries generalizing sorted with
  | nil => exact .inl h
  | cons head rest ih =>
    rcases ih h with h | h
    · rcases mem_insert h with rfl | h
      · exact .inr List.mem_cons_self
      · exact .inl h
    · exact .inr (List.mem_cons_of_mem _ h)

theorem mem_ofList {entries : List (String × α)} {e : String × α} (h : e ∈ ofList entries) : e ∈ entries :=
  (mem_foldl_insert h).resolve_left List.not_mem_nil

/-- The greatest key comes last. -/
theorem insert_of_forall_lt {key : String} {value : α} {entries : List (String × α)}
    (h : ∀ e ∈ entries, e.1 < key) : insert key value entries = entries ++ [(key, value)] := by
  induction entries with
  | nil => rfl
  | cons head rest ih =>
    obtain ⟨k, v⟩ := head
    obtain ⟨hhead, hrest⟩ := List.forall_mem_cons.1 h
    rw [insert, if_neg (String.lt_asymm hhead), if_neg (Ne.symm (Std.ne_of_lt hhead)), ih hrest, List.cons_append]

/-- Entries that are in order stay as they are. -/
theorem ofList_of_sorted {entries : List (String × α)} (h : Sorted entries) : ofList entries = entries := by
  suffices hall : ∀ front : List (String × α), Sorted (front ++ entries) →
      entries.foldl (fun s (k, v) => insert k v s) front = front ++ entries from hall [] h
  clear h
  induction entries with
  | nil => exact fun front _ => (List.append_nil front).symm
  | cons head rest ih =>
    obtain ⟨k, v⟩ := head
    intro front hfront
    have hlast : ∀ e ∈ front, e.1 < k := fun e he =>
      (List.pairwise_append.1 hfront).2.2 e he (k, v) List.mem_cons_self
    rw [List.append_cons] at hfront ⊢
    rw [List.foldl_cons]
    dsimp only
    rw [insert_of_forall_lt hlast]
    exact ih _ hfront

end Entries

/-! ## Maps -/

/-- A map with names for keys, in the order of the names. -/
structure StringMap (α : Type) where
  entries : List (String × α)
  sorted : Entries.Sorted entries
deriving DecidableEq, Repr

namespace StringMap

variable {α : Type}

/-- No entry. -/
def empty : StringMap α := ⟨[], List.Pairwise.nil⟩

instance : Inhabited (StringMap α) := ⟨empty⟩

/-- Put an entry in its place; an entry of the same key is replaced. -/
def insert (map : StringMap α) (key : String) (value : α) : StringMap α :=
  ⟨Entries.insert key value map.entries, Entries.sorted_insert map.sorted⟩

/-- The value of a key. -/
def get? (map : StringMap α) (key : String) : Option α := Entries.get? key map.entries

/-- A later entry wins over an earlier one of the same key. -/
def ofList (entries : List (String × α)) : StringMap α :=
  ⟨Entries.ofList entries, Entries.sorted_ofList entries⟩

theorem ofList_entries (map : StringMap α) : ofList map.entries = map := by
  obtain ⟨entries, sorted⟩ := map
  simp only [ofList, Entries.ofList_of_sorted sorted]

end StringMap

/-! ## Sets -/

/-- A set of names, in order. -/
structure StringSet where
  map : StringMap Unit
deriving DecidableEq, Repr, Inhabited

namespace StringSet

/-- No name. -/
def empty : StringSet := ⟨.empty⟩

/-- The names in order. -/
def toList (set : StringSet) : List String := set.map.entries.map Prod.fst

/-- The names of a list, each once. -/
def ofList (names : List String) : StringSet := ⟨.ofList (names.map (·, ()))⟩

theorem ofList_toList (set : StringSet) : ofList set.toList = set := by
  have hentries : set.toList.map (·, ()) = set.map.entries := by
    simp [toList, List.map_map, Function.comp_def]
  rw [ofList, hentries, StringMap.ofList_entries]

/-- Whether a name is in the set. -/
def contains (set : StringSet) (name : String) : Bool := (set.map.get? name).isSome

/-- No name at all. -/
def isEmpty (set : StringSet) : Bool := set.map.entries.isEmpty

/-- The names of both sets. -/
def union (a b : StringSet) : StringSet := ofList (a.toList ++ b.toList)

end StringSet

end FuzzCampaign
