import PodPlacement.Plugins.Preference
import PodPlacement.Proofs.Cluster.Images
import PodPlacement.Proofs.Double.Nearest

/-!
How widely an image is spread over the cluster. The count by image and the lookups on the nodes tell
the same, so the share that the score of a node is computed from is a share indeed, and not zero
where the node holds the image.
-/

namespace PodPlacement.Plugins.ImageLocality

def spread (s : Snapshot) (image : String) : Float :=
  Float.ofNat (s.nodesWithImage (normalizeImage image)) / Float.ofNat (max s.nodes.length 1)

variable {s : Snapshot} {image : String} {n : NodeInfo}

theorem imageWorth_eq (s : Snapshot) (n : NodeInfo) (image : String) : imageWorth s n image =
    (n.imageSize? image).elim 0 fun size ↦ wholePart (Float.ofInt size * spread s image) := by
  simp only [imageWorth, NodeInfo.imageSize?_normalizeImage]
  cases n.imageSize? image <;> rfl

theorem nodesWithImage_le (s : Snapshot) (image : String) :
    s.nodesWithImage (normalizeImage image) ≤ s.nodes.length := by
  rw [s.nodesWithImage_eq]
  exact List.countP_le_length

theorem nodesWithImage_pos (hn : n ∈ s.nodes) (h : (n.imageSize? image).isSome = true) :
    0 < s.nodesWithImage (normalizeImage image) := by
  rw [s.nodesWithImage_eq]
  exact List.countP_pos_iff.2 ⟨n, hn, h⟩

theorem spread_bounds (h : s.nodes.length < 2 ^ 64) (image : String) :
    0 ≤ spread s image ∧ spread s image ≤ 1 := by
  have hpos : 0 < max s.nodes.length 1 := by omega
  have hbound : max s.nodes.length 1 < 2 ^ 64 := by omega
  have hle := (nodesWithImage_le s image).trans (Nat.le_max_left _ 1)
  exact ⟨Double.zero_le_of_positive (Double.sign?_ratio hpos hbound),
    Double.ratio_le_one hle hpos hbound⟩

theorem spread_pos (h : s.nodes.length < 2 ^ 64) (hn : n ∈ s.nodes)
    (hsome : (n.imageSize? image).isSome = true) : 0 < spread s image := by
  have hle := nodesWithImage_le s image
  exact Double.ratio_pos (nodesWithImage_pos hn hsome) (by omega) (by omega) (by omega)

/-- A name means the same image with and without its tag spelled out. What a node says of an image
is what the last entry that means it says, and as many nodes are counted as say something, so that
the share they make up is from zero to one. -/
theorem images_counted (s : Snapshot) (image : String) :
    normalizeImage (normalizeImage image) = normalizeImage image ∧
    (∀ n : NodeInfo,
      ((n.imageSize? image).isSome = true ↔ ∃ entry ∈ n.node.images, entry.Means image) ∧
      (∀ size, n.imageSize? image = some size ↔
        ∃ before entry after, n.node.images = before ++ entry :: after ∧ entry.Means image ∧
          (∀ later ∈ after, ¬later.Means image) ∧ entry.size.getD 0 = size) ∧
      n.imageSize? (normalizeImage image) = n.imageSize? image ∧
      imageWorth s n image =
        (n.imageSize? image).elim 0 fun size ↦ wholePart (Float.ofInt size * spread s image)) ∧
    s.nodesWithImage (normalizeImage image) =
      s.nodes.countP (fun n ↦ (n.imageSize? image).isSome) ∧
    s.nodesWithImage (normalizeImage image) ≤ s.nodes.length ∧
    (s.nodes.length < 2 ^ 64 → 0 ≤ spread s image ∧ spread s image ≤ 1 ∧
      ∀ n ∈ s.nodes, (n.imageSize? image).isSome = true → 0 < spread s image) := by
  refine ⟨normalizeImage_normalizeImage image, fun n ↦ ⟨?_, fun size ↦ ?_, ?_, ?_⟩,
    s.nodesWithImage_eq image, nodesWithImage_le s image, fun h ↦ ?_⟩
  · exact NodeInfo.isSome_imageSize?_iff
  · exact NodeInfo.imageSize?_eq_some_iff
  · exact n.imageSize?_normalizeImage image
  · exact imageWorth_eq s n image
  · obtain ⟨hlow, hhigh⟩ := spread_bounds h image
    exact ⟨hlow, hhigh, fun n hn ↦ spread_pos h hn⟩

namespace Aliases

/-! Three nodes, of which two list one image, one of them under several names. -/

def holding (images : List NodeImage) : NodeInfo where
  node := { status := some { images := some images } }
  pods := []

def twice : NodeInfo := holding
  [{ names := some ["nginx", "nginx:latest"], size := some 100 },
    { names := some ["mirror:5000/nginx"], size := some 80 }, { names := some ["nginx"] }]

def once : NodeInfo := holding [{ names := some ["nginx:latest"], size := some 70 }]

def cluster : Snapshot := .ofNodes [twice, once, holding []]

end Aliases

open Aliases in
/-- The port of a registry is no tag. -/
theorem images_counted_aliases :
    twice.imageSize? "nginx" = some 0 ∧ cluster.nodesWithImage (normalizeImage "nginx") = 2 ∧
    cluster.nodesWithImage (normalizeImage "mirror:5000/nginx") = 1 ∧
    cluster.nodes.length < 2 ^ 64 ∧ 0 < spread cluster "nginx" ∧ spread cluster "nginx" ≤ 1 := by
  obtain ⟨-, hnodes, hcount, -, hshare⟩ := images_counted cluster "nginx"
  obtain ⟨-, -, hcount', -⟩ := images_counted cluster "mirror:5000/nginx"
  have hsize : twice.imageSize? "nginx" = some 0 :=
    ((hnodes twice).2.1 0).2 ⟨[_, _], _, [], rfl, by decide +kernel, by decide, rfl⟩
  have hlength : cluster.nodes.length < 2 ^ 64 := by decide
  obtain ⟨-, hhigh, hpos⟩ := hshare hlength
  refine ⟨hsize, ?_, ?_, hlength, hpos twice (List.mem_cons_self ..) ?_, hhigh⟩
  · rw [hcount]
    decide +kernel
  · rw [hcount']
    decide +kernel
  · rw [hsize]
    rfl

end PodPlacement.Plugins.ImageLocality
