import ClusterProbe.Octets

/-!
# Sorted keys

Keys in the order of their octets, each once.
-/

namespace ClusterProbe.SortedKeys

/-- Puts a key in its place in a strictly increasing list, unless it is there. -/
def insert (key : PublicKey) : List PublicKey → List PublicKey
  | [] => [key]
  | k :: rest =>
    if key.toList < k.toList then key :: k :: rest
    else if key = k then k :: rest
    else k :: insert key rest

/-- The keys of a list in increasing order, each once. -/
def ofList (keys : List PublicKey) : List PublicKey :=
  keys.foldl (fun sorted key => insert key sorted) []

theorem mem_insert {x key : PublicKey} {keys : List PublicKey} :
    x ∈ insert key keys ↔ x = key ∨ x ∈ keys := by
  induction keys with
  | nil => simp [insert]
  | cons k rest ih =>
    rw [insert]
    split
    · simp
    split
    · next h => simp [h]
    · simp only [List.mem_cons, ih]
      exact or_left_comm

theorem mem_ofList {x : PublicKey} {keys : List PublicKey} : x ∈ ofList keys ↔ x ∈ keys := by
  have h (sorted : List PublicKey) :
      x ∈ keys.foldl (fun sorted key => insert key sorted) sorted ↔ x ∈ sorted ∨ x ∈ keys := by
    induction keys generalizing sorted with
    | nil => simp
    | cons k rest ih =>
      rw [List.foldl_cons, ih, mem_insert, List.mem_cons, or_assoc]
      exact or_left_comm
  simpa [ofList] using h []

theorem pairwise_insert {key : PublicKey} {keys : List PublicKey}
    (h : keys.Pairwise (·.toList < ·.toList)) :
    (insert key keys).Pairwise (·.toList < ·.toList) := by
  induction keys with
  | nil => simp [insert]
  | cons k rest ih =>
    rw [insert]
    have hk := List.pairwise_cons.1 h
    split
    · next hlt =>
      refine List.pairwise_cons.2 ⟨fun a ha => ?_, h⟩
      rcases List.mem_cons.1 ha with rfl | ha
      · exact hlt
      · exact List.lt_trans hlt (hk.1 a ha)
    split
    · exact h
    · next hlt hne =>
      refine List.pairwise_cons.2 ⟨fun a ha => ?_, ih hk.2⟩
      rcases mem_insert.1 ha with rfl | ha
      · rcases List.le_iff_lt_or_eq.1 (List.not_lt.1 hlt) with hgt | heq
        · exact hgt
        · exact absurd (Octets.ext heq.symm) hne
      · exact hk.1 a ha

theorem pairwise_ofList (keys : List PublicKey) :
    (ofList keys).Pairwise (·.toList < ·.toList) := by
  have h (sorted : List PublicKey) (hs : sorted.Pairwise (·.toList < ·.toList)) :
      (keys.foldl (fun sorted key => insert key sorted) sorted).Pairwise
        (·.toList < ·.toList) := by
    induction keys generalizing sorted with
    | nil => exact hs
    | cons k rest ih => exact ih _ (pairwise_insert hs)
  exact h [] List.Pairwise.nil

end ClusterProbe.SortedKeys
