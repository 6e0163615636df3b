import PodPlacement.Proofs.Resource.Native
import PodPlacement.Proofs.Table

/-!
The extended resources by name, beside the native ones: what the operations on amounts do to each of
them. A resource that is not named counts as zero.
-/

namespace PodPlacement.Amounts

variable (name : String)

def extra (q : Amounts) (name : String) : Int := q.extended.getD name 0

/-- No resource is negative, native or extended. -/
def AllNonneg (q : Amounts) : Prop := q.Nonneg ∧ ∀ name, 0 ≤ q.extra name

theorem extra_eq_zero {q : Amounts} (h : q.extended = ∅) : q.extra name = 0 := by
  rw [extra, h]
  rfl

theorem extra_of_not_mem_keys {q : Amounts} {name : String} (h : name ∉ q.extended.keys) :
    q.extra name = 0 := by
  rw [Table.mem_keys_iff, not_exists] at h
  rw [extra, Table.getD, Option.eq_none_iff_forall_ne_some.2 h, Option.getD_none]

theorem extra_of_mem {q : Amounts} {e : String × Int} (h : e ∈ q.extended.entries) :
    q.extra e.1 = e.2 := by
  rw [extra, Table.getD, Table.get?_eq_some_iff.2 h, Option.getD_some]

theorem allNonneg_iff {q : Amounts} :
    q.AllNonneg ↔ q.Nonneg ∧ ∀ e ∈ q.extended.entries, 0 ≤ e.2 := by
  refine and_congr_right fun _ ↦ ⟨fun hextra e he ↦ extra_of_mem he ▸ hextra e.1, ?_⟩
  intro hentries name
  rw [extra, Table.getD]
  cases hget : q.extended.get? name with
  | none => exact Int.le_refl 0
  | some x => exact hentries _ (Table.get?_eq_some_iff.1 hget)

instance (q : Amounts) : Decidable q.AllNonneg := decidable_of_iff _ allNonneg_iff.symm

/-! ### Name by name -/

theorem get?_zipExtended (f : Int → Int → Int) (a b : Table Int) :
    (zipExtended f a b).get? name =
      (b.get? name).elim (a.get? name) fun y ↦ some (f (a.getD name 0) y) := by
  unfold zipExtended Table.getD
  refine b.foldl_read name (·.get? name) (fun old y ↦ some (f (old.getD 0) y)) (fun t y ↦ ?_)
    (fun t name' y hne ↦ ?_) a
  · exact (Table.get?_insert ..).trans (if_pos rfl)
  · exact (Table.get?_insert ..).trans (if_neg hne)

theorem getD_zipExtended (f : Int → Int → Int) (a b : Table Int) :
    (zipExtended f a b).getD name 0 = (b.get? name).elim (a.getD name 0) (f (a.getD name 0)) := by
  rw [Table.getD, get?_zipExtended]
  cases b.get? name <;> rfl

theorem extra_add {a : Amounts} (h : Word.Fits (a.extra name)) (b : Amounts) :
    (a + b).extra name = Word.add (a.extra name) (b.extra name) := by
  change (zipExtended Word.add a.extended b.extended).getD name 0 = _
  rw [getD_zipExtended, extra, extra, Table.getD, Table.getD]
  cases b.extended.get? name with
  | none => exact (Word.add_zero h).symm
  | some y => rfl

/-- What the subtrahend does not name stays as it is, so only a minuend that is not negative is
bounded by zero throughout. -/
theorem extra_sub {a : Amounts} (h : 0 ≤ a.extra name) (hfits : Word.Fits (a.extra name))
    (b : Amounts) : (a - b).extra name = max (Word.sub (a.extra name) (b.extra name)) 0 := by
  change (zipExtended monus a.extended b.extended).getD name 0 = _
  rw [getD_zipExtended, extra, extra, Table.getD, Table.getD]
  cases b.extended.get? name with
  | none =>
    change a.extra name = max (Word.wrap (a.extra name - 0)) 0
    rw [Int.sub_zero, Word.wrap_of_fits hfits]
    omega
  | some y => rfl

theorem extra_foldl_add (qs : List Amounts) :
    (qs.foldl (· + ·) zero).extra name = Word.sum (qs.map (·.extra name)) := by
  have hfoldl {a : Amounts} (h : Word.Fits (a.extra name)) :
      (qs.foldl (· + ·) a).extra name = (qs.map (·.extra name)).foldl Word.add (a.extra name) := by
    induction qs generalizing a with
    | nil => rfl
    | cons q qs ih =>
      have hnext := extra_add name h q
      rw [List.foldl_cons, ih (hnext ▸ Word.fits_add ..), hnext, List.map_cons, List.foldl_cons]
  exact hfoldl Word.fits_zero

theorem add_right_comm (a b c : Amounts) : a + b + c = a + c + b := by
  have hextended : (a + b + c).extended = (a + c + b).extended := by
    change zipExtended _ (zipExtended _ _ _) _ = zipExtended _ (zipExtended _ _ _) _
    refine Table.ext_get? fun name ↦ ?_
    simp only [get?_zipExtended, getD_zipExtended]
    cases b.extended.get? name <;> cases c.extended.get? name <;> simp
    exact Word.add_right_comm ..
  change Amounts.mk _ _ _ _ (a + b + c).extended = Amounts.mk _ _ _ _ (a + c + b).extended
  rw [hextended]
  congr 1 <;> exact Word.add_right_comm ..

theorem foldl_add_perm {qs qs' : List Amounts} (h : qs.Perm qs') (a : Amounts) :
    qs.foldl (· + ·) a = qs'.foldl (· + ·) a := by
  apply h.foldl_eq'
  intro x _ y _ z
  exact add_right_comm z x y

theorem extended_foldl_add {qs : List Amounts} (h : ∀ q ∈ qs, q.extended = ∅) {a : Amounts}
    (ha : a.extended = ∅) : (qs.foldl (· + ·) a).extended = ∅ := by
  induction qs generalizing a with
  | nil => exact ha
  | cons q qs ih =>
    refine ih (fun q' hq' ↦ h q' (List.mem_cons_of_mem _ hq')) ?_
    change zipExtended Word.add a.extended q.extended = ∅
    rw [ha, h q (List.mem_cons_self ..)]
    rfl

theorem extra_sub_of_empty {b : Amounts} (h : b.extended = ∅) (a : Amounts) :
    (a - b).extra name = a.extra name := by
  change (zipExtended monus a.extended b.extended).getD name 0 = a.extended.getD name 0
  rw [h]
  rfl

theorem fits_extra_ofList (list : ResourceList) : Word.Fits ((ofList list).extra name) := by
  by_cases h : name ∈ plainNames
  · have hkey : name ∉ (ofList list).extended.keys := by
      intro hmem
      rcases (mem_keys_combine Word.add zero list name).1 hmem with hzero | ⟨_, hplain⟩
      · cases hzero
      · exact hplain h
    rw [extra_of_not_mem_keys hkey]
    exact Word.fits_zero
  · rw [extra, ← amount_of_not_plain h, amount_ofList]
    exact fits_listed list name

/-- A reservation names no extended resource. -/
theorem extended_ofReservation {s : String} {q : Amounts} (h : ofReservation s = .ok q) :
    q.extended = ∅ := by
  unfold ofReservation at h
  dsimp only at h
  split at h
  · cases h
    rfl
  · cases h
  · cases h

end PodPlacement.Amounts
