import PodPlacement.Proofs.Resource.Named
import PodPlacement.Proofs.Text.Integer
import PodPlacement.Proofs.Word
import PodPlacement.Resource.Amounts

/-!
The native resources one by one: what the operations on amounts do to each of them, how much of it
there can be, and that a reservation holds back what it was written for.
-/

namespace PodPlacement

inductive Native
  | cpu
  | memory
  | ephemeral
deriving DecidableEq, Repr

def Native.name : Native → String
  | cpu => "cpu"
  | memory => "memory"
  | ephemeral => "ephemeral-storage"

theorem Native.forall_iff {P : Native → Prop} : (∀ r, P r) ↔ P .cpu ∧ P .memory ∧ P .ephemeral := by
  constructor
  · intro h
    exact ⟨h .cpu, h .memory, h .ephemeral⟩
  · rintro ⟨hcpu, hmemory, hephemeral⟩ r
    cases r with
    | cpu => exact hcpu
    | memory => exact hmemory
    | ephemeral => exact hephemeral

instance {P : Native → Prop} [DecidablePred P] : Decidable (∀ r, P r) :=
  decidable_of_iff _ Native.forall_iff.symm

namespace Amounts

variable (r : Native)

def get (q : Amounts) : Native → Int
  | .cpu => q.cpu
  | .memory => q.memory
  | .ephemeral => q.ephemeral

def Nonneg (q : Amounts) : Prop := ∀ r, 0 ≤ q.get r

instance (q : Amounts) : Decidable q.Nonneg := inferInstanceAs (Decidable (∀ r, 0 ≤ q.get r))

@[simp]
theorem get_zero : zero.get r = 0 := by cases r <;> rfl

@[simp]
theorem get_add (a b : Amounts) : (a + b).get r = Word.add (a.get r) (b.get r) := by
  cases r <;> rfl

@[simp]
theorem get_sub (a b : Amounts) : (a - b).get r = max (Word.sub (a.get r) (b.get r)) 0 := by
  cases r <;> rfl

theorem get_sub_nonneg (a b : Amounts) : 0 ≤ (a - b).get r := by
  rw [get_sub]
  exact Int.le_max_right _ _

theorem fits_get_sub (a b : Amounts) : Word.Fits ((a - b).get r) := by
  have hfits : Word.Fits (Word.sub (a.get r) (b.get r)) := Word.fits_wrap _
  rw [Word.fits_iff] at hfits ⊢
  rw [get_sub]
  omega

theorem covers_iff {a b : Amounts} : a.covers b = true ↔ ∀ r, b.get r ≤ a.get r := by
  simp only [covers, Bool.and_eq_true, decide_eq_true_eq, and_assoc, Native.forall_iff, get]

theorem isZero_iff {q : Amounts} : q.isZero = true ↔ ∀ r, q.get r = 0 := by
  simp only [isZero, Bool.and_eq_true, beq_iff_eq, and_assoc, Native.forall_iff, get]

theorem get_foldl_add (qs : List Amounts) :
    (qs.foldl (· + ·) zero).get r = Word.sum (qs.map (·.get r)) := by
  rw [Word.sum, List.foldl_map, ← get_zero r]
  exact (List.foldl_hom (get · r) fun a b ↦ (get_add r a b).symm).symm

/-! ### Amounts of a list -/

theorem fits_ceilInt (x : Float) : Word.Fits (Quantity.ceilInt x) :=
  ⟨Int64.le_toInt _, Int.le_of_lt_add_one (Int64.toInt_lt _)⟩

theorem fits_of_readInteger {cs : List Char} {n : Int}
    (h : Text.readInteger .signed64 cs = .ok n) : Word.Fits n :=
  ((Text.readInteger_eq_ok_iff (by decide) (by decide)).1 h).2

theorem fits_of_readCpu {text : String} {n : Int} (h : Quantity.readCpu text = .ok n) :
    Word.Fits n := by
  unfold Quantity.readCpu at h
  split at h
  · split at h
    · next hread =>
      cases h
      exact fits_of_readInteger hread
    · cases h
  · split at h
    · cases h
      exact fits_ceilInt _
    · cases h

theorem fits_of_readScaled {text : String} {digits : List Char} {factor : Nat} {n : Int}
    (h : Quantity.readScaled text digits factor = .ok n) : Word.Fits n := by
  unfold Quantity.readScaled at h
  split at h
  · cases h
    exact fits_ceilInt _
  · cases h

theorem fits_of_readBytes {text : String} {n : Int} (h : Quantity.readBytes text = .ok n) :
    Word.Fits n := by
  unfold Quantity.readBytes at h
  rcases Quantity.splitUnit text.toList with ⟨digits, factor⟩
  dsimp only at h
  split at h
  · split at h
    · next hread =>
      cases h
      exact fits_of_readInteger hread
    · exact fits_of_readScaled h
  · exact fits_of_readScaled h

theorem fits_ofNamed (name text : String) : Word.Fits (Quantity.ofNamed name text) := by
  unfold Quantity.ofNamed
  have hfits {result : Except ClusterError Int} (h : ∀ n, result = .ok n → Word.Fits n) :
      Word.Fits (result.toOption.getD 0) := by
    cases result with
    | error _ => exact Word.fits_zero
    | ok n => exact h n rfl
  split
  · exact hfits fun n ↦ fits_of_readCpu
  · exact hfits fun n ↦ fits_of_readBytes

theorem fits_listed (list : ResourceList) (name : String) :
    Word.Fits ((Quantity.listed? list name).getD 0) := by
  rw [Quantity.listed?]
  cases list.get? name with
  | none => exact Word.fits_zero
  | some text => exact fits_ofNamed name text

/-- A list names a resource at most once, so adding it to nothing overflows nowhere. -/
theorem amount_ofList (list : ResourceList) (name : String) :
    (ofList list).amount name = (Quantity.listed? list name).getD 0 := by
  have hlisted : (ofList list).amount name =
      (Quantity.listed? list name).elim (zero.amount name) (Word.add (zero.amount name)) :=
    amount_combine Word.add zero list name
  have hfits := fits_listed list name
  rw [hlisted, amount_zero]
  cases hlist : Quantity.listed? list name with
  | none => rfl
  | some x =>
    rw [hlist] at hfits
    exact Word.zero_add hfits

theorem amount_name (q : Amounts) : q.amount r.name = q.get r := by cases r <;> rfl

theorem fits_get_ofList (list : ResourceList) : Word.Fits ((ofList list).get r) := by
  rw [← amount_name, amount_ofList]
  exact fits_listed list r.name

/-! ### Reservations -/

theorem reservation_fields {a b c : Int} :
    (toString a ++ "," ++ toString b ++ "," ++ toString c).toList.splitOn ',' =
      [(toString a).toList, (toString b).toList, (toString c).toList] := by
  have hcomma {n : Int} : ∀ d ∈ (toString n).toList, (d == ',') = false := by
    intro d hd
    rw [beq_eq_false_iff_ne]
    rintro rfl
    rcases Text.mem_toString hd with h | h <;> cases h
  have hlist : (toString a ++ "," ++ toString b ++ "," ++ toString c).toList =
      (toString a).toList ++ ',' :: ((toString b).toList ++ ',' :: (toString c).toList) := by
    simp only [String.toList_append, List.append_assoc]
    rfl
  rw [hlist, List.splitOn_eq_splitOnP,
    List.splitOnP_append_cons_of_forall_mem hcomma ',' (beq_self_eq_true ','),
    List.splitOnP_append_cons_of_forall_mem hcomma ',' (beq_self_eq_true ','),
    List.splitOnP_eq_singleton hcomma]

theorem readInteger_trim_toString {n : Int}
    (h : Text.IntegerRange.signed64.lo ≤ n ∧ n ≤ Text.IntegerRange.signed64.hi) :
    Text.readInteger .signed64 (Text.trim (toString n).toList) = .ok n := by
  have hblank : ∀ c ∈ (toString n).toList, Text.isBlank c = false := by
    intro c hc
    rcases Text.mem_toString hc with rfl | hdigit
    · decide
    · exact Text.isBlank_of_isDigit hdigit
  rw [Text.trim_of_no_blank hblank]
  exact Text.readInteger_toString (by decide) (by decide) h

/-- A reservation is read back as the native resources that it was written for. -/
theorem ofReservation_toReservation {q : Amounts}
    (hfits : ∀ r, Text.IntegerRange.signed64.lo ≤ q.get r ∧
      q.get r ≤ Text.IntegerRange.signed64.hi) :
    ofReservation q.toReservation =
      .ok { cpu := q.cpu, memory := q.memory, ephemeral := q.ephemeral } := by
  have hcpu := readInteger_trim_toString (hfits .cpu)
  have hmemory := readInteger_trim_toString (hfits .memory)
  have hephemeral := readInteger_trim_toString (hfits .ephemeral)
  simp only [get] at hcpu hmemory hephemeral
  simp only [ofReservation, toReservation, reservation_fields, List.mapM_cons, List.mapM_nil, hcpu,
    hmemory, hephemeral]
  rfl

end Amounts

end PodPlacement
