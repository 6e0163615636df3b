import Mathlib.Algebra.Order.BigOperators.Group.List
import PodPlacement.Proofs.Resource.Native
import PodPlacement.Proofs.Resource.Request

/-!
What a pod counts for when the load of a node is judged: each container with a default where it
asks for nothing, but neither the init containers nor the overhead. So a pod may count for less than
it asks.
-/

namespace PodPlacement

def Native.fallback : Native → Int
  | cpu => Pod.defaultCpu
  | memory => Pod.defaultMemory
  | ephemeral => 0

theorem Native.fallback_nonneg (r : Native) : 0 ≤ r.fallback := by cases r <;> decide

variable (r : Native)

theorem Container.get_ofList_requests (c : Container) :
    (c.requests?.elim Amounts.zero Amounts.ofList).get r = (c.listed? r.name).getD 0 := by
  cases hlist : c.requests? with
  | none => simp [Container.listed?, hlist]
  | some list =>
    rw [Option.elim_some, ← Amounts.amount_name, Amounts.amount_ofList, Container.listed?, hlist,
      Option.bind_some]

def Container.defaulted (c : Container) : Int :=
  Pod.orDefault r.fallback ((c.listed? r.name).getD 0)

theorem Container.le_defaulted (c : Container) : (c.listed? r.name).getD 0 ≤ c.defaulted r := by
  simp only [defaulted, Pod.orDefault]
  split_ifs with hzero
  · rw [hzero]
    exact r.fallback_nonneg
  · exact le_rfl

def Amounts.addDefaulted (q : Amounts) (c : Container) : Amounts :=
  let own := c.requests?.elim Amounts.zero Amounts.ofList
  { q with
    cpu := Word.add q.cpu (Pod.orDefault Pod.defaultCpu own.cpu)
    memory := Word.add q.memory (Pod.orDefault Pod.defaultMemory own.memory) }

variable {r}

theorem Amounts.get_addDefaulted (hr : r ≠ .ephemeral) (q : Amounts) (c : Container) :
    (q.addDefaulted c).get r = Word.add (q.get r) (c.defaulted r) := by
  have hown := c.get_ofList_requests r
  cases r with
  | cpu => rw [Container.defaulted, ← hown]; rfl
  | memory => rw [Container.defaulted, ← hown]; rfl
  | ephemeral => exact absurd rfl hr

theorem Amounts.get_foldl_addDefaulted (hr : r ≠ .ephemeral) (cs : List Container) (q : Amounts) :
    (cs.foldl addDefaulted q).get r = (cs.map (·.defaulted r)).foldl Word.add (q.get r) := by
  induction cs generalizing q with
  | nil => rfl
  | cons c cs ih =>
    rw [List.foldl_cons, ih, get_addDefaulted hr, List.map_cons, List.foldl_cons]

namespace Pod

variable (p : Pod)

def defaulted (r : Native) : Int := (p.containers.map (·.defaulted r)).sum

/-- 64 bits hold what the pod asks for of the resource, and what it counts for. -/
structure InRange (r : Native) : Prop where
  listings : Word.Fits (p.listings r.name).sum
  together : Word.Fits ((p.listings r.name).sum + p.onTop r.name)
  alone : ∀ c ∈ p.initContainers, Word.Fits ((c.listed? r.name).getD 0 + p.onTop r.name)
  counted : Word.Fits (p.defaulted r)

variable {p}

theorem get_nonZeroRequest (hr : r ≠ .ephemeral) (h : p.InRange r) :
    p.nonZeroRequest.get r = p.defaulted r := by
  have hfold : p.nonZeroRequest = p.containers.foldl Amounts.addDefaulted .zero := rfl
  rw [hfold, Amounts.get_foldl_addDefaulted hr, Amounts.get_zero]
  exact Word.sum_of_fits h.counted

theorem InRange.get_request (h : p.InRange r) : ∃ most,
    IsGreatest {x | x = (p.listings r.name).sum ∨
      ∃ c ∈ p.initContainers, c.listed? r.name = some x} most ∧
    p.request.get r = most + p.onTop r.name := by
  obtain ⟨most, hmost, -⟩ := amount_request p r.name
  rw [Word.sum_of_fits h.listings] at hmost
  have hfits : Word.Fits (most + p.onTop r.name) := by
    rcases hmost.1 with rfl | ⟨c, hc, hx⟩
    · exact h.together
    · simpa only [hx, Option.getD_some] using h.alone c hc
  refine ⟨most, hmost, ?_⟩
  rw [← Amounts.amount_name, amount_request_of_fits hmost h.listings hfits]

variable (p) in
theorem sum_listings_le_defaulted : (p.listings r.name).sum ≤ p.defaulted r :=
  List.sum_le_sum fun c _ ↦ c.le_defaulted r

theorem InRange.request_le_iff (h : p.InRange r) (x : Int) : p.request.get r ≤ x ↔
    (p.listings r.name).sum + p.onTop r.name ≤ x ∧
      ∀ c ∈ p.initContainers, ∀ y, c.listed? r.name = some y → y + p.onTop r.name ≤ x := by
  obtain ⟨most, ⟨hmem, hupper⟩, hrequest⟩ := h.get_request
  rw [hrequest]
  constructor
  · intro hle
    refine ⟨?_, ?_⟩
    · have htogether := hupper (.inl rfl)
      omega
    · intro c hc y hy
      have hinit := hupper (.inr ⟨c, hc, hy⟩)
      omega
  · rintro ⟨htogether, hinit⟩
    rcases hmem with rfl | ⟨c, hc, hy⟩
    · exact htogether
    · exact hinit c hc most hy

variable (p) in
/-- The defaults make up for what does not count: the overhead, and what an init container asks
beyond the containers. -/
def DefaultsSuffice (r : Native) : Prop :=
  (p.listings r.name).sum + p.onTop r.name ≤ p.defaulted r ∧
    ∀ c ∈ p.initContainers, ∀ x, c.listed? r.name = some x → x + p.onTop r.name ≤ p.defaulted r

theorem request_le_nonZeroRequest_iff (hr : r ≠ .ephemeral) (h : p.InRange r) :
    p.request.get r ≤ p.nonZeroRequest.get r ↔ p.DefaultsSuffice r := by
  rw [get_nonZeroRequest hr h]
  exact h.request_le_iff _

variable (p)

/-- Containers alone never ask for more than they count for. -/
theorem defaultsSuffice_of_plain (hinit : p.initContainers = []) (hoverhead : p.onTop r.name = 0) :
    p.DefaultsSuffice r := by
  constructor
  · rw [hoverhead, Int.add_zero]
    exact p.sum_listings_le_defaulted
  · intro c hc
    rw [hinit] at hc
    cases hc

/-! ### Quantities that are not negative -/

def lists : List ResourceList :=
  (p.containers ++ p.initContainers).filterMap (·.requests?) ++ [p.overhead]

/-- No quantity that the pod lists is negative. -/
def Nonneg : Prop := ∀ list ∈ p.lists, ∀ e ∈ list.entries, 0 ≤ Quantity.ofNamed e.1 e.2

instance : Decidable p.Nonneg :=
  inferInstanceAs (Decidable (∀ list ∈ p.lists, ∀ e ∈ list.entries, 0 ≤ Quantity.ofNamed e.1 e.2))

variable {p}

theorem Nonneg.listed (h : p.Nonneg) {list : ResourceList} (hlist : list ∈ p.lists)
    {name : String} : 0 ≤ (Quantity.listed? list name).getD 0 := by
  rw [Quantity.listed?]
  cases hget : list.get? name with
  | none => exact le_rfl
  | some text => exact h list hlist (name, text) (Table.get?_eq_some_iff.1 hget)

theorem Nonneg.sum_listings_nonneg (h : p.Nonneg) (name : String) : 0 ≤ (p.listings name).sum := by
  apply List.sum_nonneg
  intro x hx
  obtain ⟨c, hc, rfl⟩ := List.mem_map.1 hx
  rw [Container.listed?]
  cases hlist : c.requests? with
  | none => exact le_rfl
  | some list =>
    apply h.listed
    exact List.mem_append_left _ (List.mem_filterMap.2 ⟨c, List.mem_append_left _ hc, hlist⟩)

theorem Nonneg.request_nonneg (h : p.Nonneg) (hfits : p.InRange r) : 0 ≤ p.request.get r := by
  obtain ⟨most, ⟨-, hupper⟩, hrequest⟩ := hfits.get_request
  have hsum := h.sum_listings_nonneg r.name
  have hmost := hupper (.inl rfl)
  have hontop : 0 ≤ p.onTop r.name := h.listed (List.mem_append_right _ (List.mem_singleton_self _))
  omega

end Pod

end PodPlacement
