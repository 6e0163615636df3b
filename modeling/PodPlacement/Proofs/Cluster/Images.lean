import Mathlib.Data.List.Induction
import PodPlacement.Cluster.Snapshot
import PodPlacement.Proofs.Table

/-!
Images on nodes, by names that may leave the tag out. A name with its tag spelled out stays as it
is, a look at one node finds what the last entry under the name says, and the count for the whole
cluster is that of the nodes where a look finds something.
-/

namespace PodPlacement

/-! ### Names -/

def lastPart (cs : List Char) : List Char := (cs.splitOn '/').getLast?.getD cs

/-- The name has a digest, or a tag behind its last slash. -/
def IsTagged (image : String) : Prop := '@' ∈ image.toList ∨ ':' ∈ lastPart image.toList

instance : DecidablePred IsTagged := fun _ ↦ inferInstanceAs (Decidable (_ ∨ _))

variable {cs before after tag : List Char} {image : String}

theorem lastPart_of_not_mem (h : '/' ∉ cs) : lastPart cs = cs := by
  rw [lastPart, List.splitOn_eq_singleton h]
  rfl

theorem lastPart_append_slash (h : '/' ∉ after) : lastPart (before ++ '/' :: after) = after := by
  rw [lastPart, List.splitOn_append_cons_self, List.splitOn_eq_singleton h, List.getLast?_concat]
  rfl

theorem exists_last_slash (h : '/' ∈ cs) :
    ∃ before after, cs = before ++ '/' :: after ∧ '/' ∉ after := by
  obtain ⟨front, back, heq, hfront⟩ := List.eq_append_cons_of_mem (List.mem_reverse.2 h)
  refine ⟨back.reverse, front.reverse, ?_, by simpa using hfront⟩
  rw [← cs.reverse_reverse, heq]
  simp

theorem lastPart_append (h : '/' ∉ tag) : lastPart (cs ++ tag) = lastPart cs ++ tag := by
  by_cases hslash : '/' ∈ cs
  · obtain ⟨before, after, rfl, hafter⟩ := exists_last_slash hslash
    have hboth : '/' ∉ after ++ tag := by simp [hafter, h]
    rw [List.append_assoc, List.cons_append, lastPart_append_slash hboth,
      lastPart_append_slash hafter]
  · have hboth : '/' ∉ cs ++ tag := by simp [hslash, h]
    rw [lastPart_of_not_mem hboth, lastPart_of_not_mem hslash]

theorem normalizeImage_eq (image : String) :
    normalizeImage image = if IsTagged image then image else image ++ ":latest" := by
  have htagged : (image.toList.contains '@' || (lastPart image.toList).contains ':') = true ↔
      IsTagged image := by
    rw [Bool.or_eq_true, List.contains_iff_mem, List.contains_iff_mem, IsTagged]
  exact if_congr htagged rfl rfl

theorem isTagged_normalizeImage (image : String) : IsTagged (normalizeImage image) := by
  rw [normalizeImage_eq]
  split_ifs with h
  · exact h
  · refine .inr ?_
    rw [String.toList_append, lastPart_append (by decide)]
    exact List.mem_append_right _ (by decide)

@[simp]
theorem normalizeImage_normalizeImage (image : String) :
    normalizeImage (normalizeImage image) = normalizeImage image := by
  rw [normalizeImage_eq (normalizeImage image), if_pos (isTagged_normalizeImage image)]

/-! ### One node -/

def NodeImage.Means (entry : NodeImage) (image : String) : Prop :=
  ∃ name ∈ entry.names.getD [], normalizeImage name = normalizeImage image

instance (image : String) : DecidablePred (NodeImage.Means · image) :=
  fun _ ↦ inferInstanceAs (Decidable (∃ name ∈ _, _))

namespace NodeInfo

@[simp]
theorem imageSize?_normalizeImage (n : NodeInfo) (image : String) :
    n.imageSize? (normalizeImage image) = n.imageSize? image := by
  rw [imageSize?, normalizeImage_normalizeImage, imageSize?]

theorem get?_foldl_names (names : List String) (size : Int) (t : Table Int) (key : String) :
    (names.foldl (fun t name ↦ t.insert (normalizeImage name) size) t).get? key =
      if ∃ name ∈ names, normalizeImage name = key then some size else t.get? key := by
  induction names generalizing t with
  | nil => simp
  | cons name names ih =>
    rw [List.foldl_cons, ih, Table.get?_insert]
    by_cases hrest : ∃ name ∈ names, normalizeImage name = key
    · rw [if_pos hrest, if_pos (hrest.imp fun _ h ↦ ⟨List.mem_cons_of_mem _ h.1, h.2⟩)]
    · have hhead : (∃ e ∈ name :: names, normalizeImage e = key) ↔ key = normalizeImage name := by
        simp only [List.mem_cons, exists_eq_or_imp]
        rw [or_iff_left hrest, eq_comm]
      rw [if_neg hrest]
      exact if_congr hhead.symm rfl rfl

/-- The last entry under the name counts. -/
theorem imageSize?_eq_find? (n : NodeInfo) (image : String) : n.imageSize? image =
    (n.node.images.reverse.find? (NodeImage.Means · image)).map (·.size.getD 0) := by
  rw [imageSize?, images]
  induction n.node.images using List.reverseRecOn with
  | nil => rfl
  | append_singleton entries entry ih =>
    rw [List.foldl_append, List.foldl_cons, List.foldl_nil, get?_foldl_names, ih,
      List.reverse_append, List.reverse_singleton, List.singleton_append]
    by_cases h : entry.Means image
    · rw [List.find?_cons_of_pos (by simpa using h)]
      exact if_pos h
    · rw [List.find?_cons_of_neg (by simpa using h)]
      exact if_neg h

theorem imageSize?_eq_some_iff {n : NodeInfo} {size : Int} : n.imageSize? image = some size ↔
    ∃ before entry after, n.node.images = before ++ entry :: after ∧ entry.Means image ∧
      (∀ later ∈ after, ¬later.Means image) ∧ entry.size.getD 0 = size := by
  simp only [imageSize?_eq_find?, Option.map_eq_some_iff, List.find?_eq_some_iff_append,
    decide_eq_true_eq, Bool.not_eq_true', decide_eq_false_iff_not]
  constructor
  · rintro ⟨entry, ⟨hmeans, after, before, heq, hafter⟩, hsize⟩
    refine ⟨before.reverse, entry, after.reverse, ?_, hmeans, by simpa using hafter, hsize⟩
    rw [← n.node.images.reverse_reverse, heq]
    simp
  · rintro ⟨before, entry, after, heq, hmeans, hafter, hsize⟩
    refine ⟨entry, ⟨hmeans, after.reverse, before.reverse, ?_, by simpa using hafter⟩, hsize⟩
    rw [heq]
    simp

theorem isSome_imageSize?_iff {n : NodeInfo} : (n.imageSize? image).isSome = true ↔
    ∃ entry ∈ n.node.images, entry.Means image := by
  simp [imageSize?_eq_find?]

theorem isSome_imageSize?_iff_mem_keys {n : NodeInfo} :
    (n.imageSize? image).isSome = true ↔ normalizeImage image ∈ n.images.keys := by
  rw [imageSize?, Option.isSome_iff_exists, Table.mem_keys_iff]

end NodeInfo

/-! ### The cluster -/

theorem getD_foldl_adjust (keys : List String) (t : Table Nat) (key : String) :
    (keys.foldl (fun t key ↦ t.adjust key (·.getD 0 + 1)) t).getD key 0 =
      t.getD key 0 + keys.count key := by
  induction keys generalizing t with
  | nil => simp
  | cons k keys ih =>
    rw [List.foldl_cons, ih, Table.getD, Table.adjust, Table.get?_insert, List.count_cons]
    by_cases h : key = k
    · subst h
      simp [Table.getD, Nat.add_assoc, Nat.add_comm]
    · simp [Table.getD, h, Ne.symm h]

/-- No key of a node comes twice, however many names the node lists under it. -/
theorem getD_foldl_images (nodes : List NodeInfo) (t : Table Nat) (image : String) :
    (nodes.foldl (fun t n ↦
        n.images.keys.foldl (fun t image ↦ t.adjust image (·.getD 0 + 1)) t) t).getD
      (normalizeImage image) 0 =
    t.getD (normalizeImage image) 0 + nodes.countP fun n ↦ (n.imageSize? image).isSome := by
  induction nodes generalizing t with
  | nil => simp
  | cons n nodes ih =>
    have hcount := n.images.keys_nodup.count (a := normalizeImage image)
    simp only [← NodeInfo.isSome_imageSize?_iff_mem_keys] at hcount
    rw [List.foldl_cons, ih, getD_foldl_adjust, List.countP_cons, hcount, Nat.add_assoc,
      Nat.add_comm (List.countP _ _)]

theorem Snapshot.nodesWithImage_eq (s : Snapshot) (image : String) :
    s.nodesWithImage (normalizeImage image) =
      s.nodes.countP fun n ↦ (n.imageSize? image).isSome := by
  rw [nodesWithImage, s.imageCounts_eq, countImages, getD_foldl_images]
  exact Nat.zero_add _

end PodPlacement
