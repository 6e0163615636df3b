import Mathlib.Data.Int.ConditionallyCompleteOrder
import Mathlib.Data.Option.Basic
import PodPlacement.Proofs.Resource.Native
import PodPlacement.Resource.Request

/-!
What a pod asks for, one resource at a time: its containers together or the greatest of its init
containers, and the overhead on top of it. So the order of the containers does not matter.
-/

namespace PodPlacement

namespace Container

def listed? (c : Container) (name : String) : Option Int :=
  c.requests?.bind (Quantity.listed? · name)

end Container

namespace Amounts

variable (f : Int → Int → Int) (q : Amounts) (name : String) (cs : List Container)

theorem amount_foldl_add :
    ((cs.filterMap (·.requests?)).foldl (combine Word.add) zero).amount name =
      Word.sum (cs.map fun c ↦ (c.listed? name).getD 0) := by
  have hfoldl {q : Amounts} (hfits : Word.Fits (q.amount name)) :
      ((cs.filterMap (·.requests?)).foldl (combine Word.add) q).amount name =
        (cs.map fun c ↦ (c.listed? name).getD 0).foldl Word.add (q.amount name) := by
    induction cs generalizing q with
    | nil => rfl
    | cons c cs ih =>
      cases hlist : c.requests? with
      | none => simp [hlist, ih hfits, Container.listed?, Word.add_zero hfits]
      | some list =>
        have hnext : (q.combine Word.add list).amount name =
            Word.add (q.amount name) ((c.listed? name).getD 0) := by
          rw [amount_combine, Container.listed?, hlist, Option.bind_some]
          cases Quantity.listed? list name with
          | none => exact (Word.add_zero hfits).symm
          | some x => rfl
        rw [List.filterMap_cons_some hlist, List.foldl_cons, ih (hnext ▸ Word.fits_add ..), hnext,
          List.map_cons, List.foldl_cons]
  have hzero := amount_zero name
  rw [hfoldl (hzero ▸ Word.fits_zero), hzero]
  rfl

theorem amount_foldl_max :
    ((cs.filterMap (·.requests?)).foldl (combine max) q).amount name =
      (cs.filterMap (·.listed? name)).foldl max (q.amount name) := by
  induction cs generalizing q with
  | nil => rfl
  | cons c cs ih =>
    cases hlist : c.requests? with
    | none => simp [hlist, ih, Container.listed?]
    | some list =>
      simp only [List.filterMap_cons, hlist, List.foldl_cons, ih, amount_combine,
        Container.listed?, Option.bind_some]
      cases Quantity.listed? list name <;> simp

end Amounts

theorem isGreatest_foldl_max (a : Int) (xs : List Int) :
    IsGreatest {x | x = a ∨ x ∈ xs} (xs.foldl max a) := by
  have hmax : (a :: xs).max? = some (xs.foldl max a) := List.max?_cons'
  obtain ⟨hmem, hupper⟩ := List.max?_eq_some_iff.1 hmax
  refine ⟨List.mem_cons.1 hmem, fun x hx ↦ ?_⟩
  exact hupper x (List.mem_cons.2 hx)

namespace Pod

variable (p : Pod) (name : String)

def listings : List Int := p.containers.map fun c ↦ (c.listed? name).getD 0

def onTop : Int := (Quantity.listed? p.overhead name).getD 0

theorem request_eq : p.request =
    Amounts.combine Word.add
      ((p.initContainers.filterMap (·.requests?)).foldl (Amounts.combine max)
        ((p.containers.filterMap (·.requests?)).foldl (Amounts.combine Word.add) .zero))
      p.overhead := rfl

theorem fits_of_listed {c : Container} {name : String} {x : Int} (h : c.listed? name = some x) :
    Word.Fits x := by
  obtain ⟨list, _, hlist⟩ := Option.bind_eq_some_iff.1 h
  have hfits := Amounts.fits_listed list name
  rwa [hlist] at hfits

theorem amount_request : ∃ most,
    IsGreatest {x | x = Word.sum (p.listings name) ∨
      ∃ c ∈ p.initContainers, c.listed? name = some x} most ∧
    p.request.amount name = Word.add most (p.onTop name) := by
  have hgreatest :=
    isGreatest_foldl_max (Word.sum (p.listings name)) (p.initContainers.filterMap (·.listed? name))
  simp only [List.mem_filterMap] at hgreatest
  refine ⟨_, hgreatest, ?_⟩
  rw [request_eq, Amounts.amount_combine, Amounts.amount_foldl_max, Amounts.amount_foldl_add, onTop]
  cases Quantity.listed? p.overhead name with
  | some x => rfl
  | none =>
    refine (Word.add_zero ?_).symm
    rcases hgreatest.1 with hsum | ⟨c, _, hc⟩
    · exact hsum.symm ▸ Word.fits_sum _
    · exact fits_of_listed hc

theorem fits_get_request (r : Native) : Word.Fits (p.request.get r) := by
  obtain ⟨_, _, hamount⟩ := p.amount_request r.name
  rw [← Amounts.amount_name, hamount]
  exact Word.fits_add ..

variable {p}

/-- Where the sums fit into 64 bits they are exact. -/
theorem amount_request_of_fits {name : String} {most : Int}
    (hmost : IsGreatest {x | x = (p.listings name).sum ∨
      ∃ c ∈ p.initContainers, c.listed? name = some x} most)
    (hsum : Word.Fits (p.listings name).sum) (htotal : Word.Fits (most + p.onTop name)) :
    p.request.amount name = most + p.onTop name := by
  obtain ⟨most', hmost', hamount⟩ := amount_request p name
  rw [Word.sum_of_fits hsum] at hmost'
  rw [hamount, hmost'.unique hmost, Word.add_of_fits htotal]

end Pod

end PodPlacement
