import CockpitHud.Ship.Block

namespace CockpitHud

structure IdSet where
  ids : List BlockId
  ascending : ids.Pairwise fun a b => a.number < b.number
  deriving DecidableEq

namespace IdSet

def insertInto (id : BlockId) : List BlockId → List BlockId
  | [] => [id]
  | other :: rest =>
    if id.number < other.number then id :: other :: rest
    else if id = other then other :: rest
    else other :: insertInto id rest

theorem mem_insertInto {id a : BlockId} {ids : List BlockId} :
    a ∈ insertInto id ids ↔ a = id ∨ a ∈ ids := by
  induction ids with
  | nil => simp [insertInto]
  | cons other rest ih =>
    simp only [insertInto]
    split
    · simp
    · split
      · rename_i h; subst h; simp
      · simp only [List.mem_cons, ih]
        constructor
        · rintro (h | h | h) <;> simp [h]
        · rintro (h | h | h) <;> simp [h]

theorem ascending_insertInto {id : BlockId} {ids : List BlockId}
    (h : ids.Pairwise fun a b => a.number < b.number) :
    (insertInto id ids).Pairwise fun a b => a.number < b.number := by
  induction ids with
  | nil => simp [insertInto]
  | cons other rest ih =>
    obtain ⟨hfirst, hrest⟩ := List.pairwise_cons.mp h
    simp only [insertInto]
    split
    · rename_i hlt
      refine List.pairwise_cons.mpr ⟨?_, h⟩
      intro a ha
      rcases List.mem_cons.mp ha with rfl | ha
      · exact hlt
      · exact UInt64.lt_trans hlt (hfirst a ha)
    · rename_i hge
      split
      · exact h
      · rename_i hne
        refine List.pairwise_cons.mpr ⟨?_, ih hrest⟩
        intro a ha
        rcases mem_insertInto.mp ha with rfl | ha
        · refine UInt64.lt_of_le_of_ne (UInt64.not_lt.mp hge) ?_
          intro he
          exact hne (congrArg BlockId.mk he.symm)
        · exact hfirst a ha

def empty : IdSet :=
  ⟨[], .nil⟩

def insert (set : IdSet) (id : BlockId) : IdSet :=
  ⟨insertInto id set.ids, ascending_insertInto set.ascending⟩

def ofList (ids : List BlockId) : IdSet :=
  ids.foldr (fun id set => set.insert id) empty

def contains (set : IdSet) (id : BlockId) : Bool :=
  set.ids.contains id

theorem mem_ofList {ids : List BlockId} {id : BlockId} : id ∈ (ofList ids).ids ↔ id ∈ ids := by
  induction ids with
  | nil => simp [ofList, empty]
  | cons other rest ih =>
    have hstep : (ofList (other :: rest)).ids = insertInto other (ofList rest).ids := rfl
    rw [hstep, mem_insertInto, ih, List.mem_cons]

@[simp] theorem contains_ofList (ids : List BlockId) (id : BlockId) :
    (ofList ids).contains id = ids.contains id := by
  rw [Bool.eq_iff_iff]
  simp [contains, mem_ofList]

end IdSet

end CockpitHud
