import Mathlib
import PodPlacement.Proofs.Service.Message
import PodPlacement.Table

/-!
Which objects are read as a request, and as which: the order of their members does not count, and
neither does what else they hold. What was sent is read as it was.
-/

namespace PodPlacement

open Text

/-! ### Records -/

namespace Fields

variable {δ α : Type} {given given' : List (String × δ)} {names : List String} {name : String}
  {x : δ} {a : α} {decode : δ → Option α} {Denotes : δ → α → Prop} {fallback : α}

/-- What the fields tell under a name: what is given there denotes it, and where nothing is given it
is the fallback. -/
inductive Tells (given : List (String × δ)) (name : String) (Denotes : δ → α → Prop)
    (fallback : α) : α → Prop
  | given {x : δ} {a : α} : (name, x) ∈ given → Denotes x a → Tells given name Denotes fallback a
  | omitted : (∀ f ∈ given, f.1 ≠ name) → Tells given name Denotes fallback fallback

theorem distinct_iff :
    distinct names given = true ↔ ∀ name ∈ names, (given.map (·.1)).count name ≤ 1 := by
  rw [distinct, List.all_eq_true]
  refine forall₂_congr fun name _ ↦ ?_
  rw [decide_eq_true_iff, List.count, List.countP_map]
  rfl

theorem lookup_eq_none_iff : given.lookup name = none ↔ ∀ f ∈ given, f.1 ≠ name := by
  rw [List.lookup_eq_none_iff]
  refine forall₂_congr fun f _ ↦ ?_
  rw [bne_iff_ne, ne_comm]

theorem lookup_eq_some_iff (h : (given.map (·.1)).count name ≤ 1) :
    given.lookup name = some x ↔ (name, x) ∈ given := by
  induction given with
  | nil => exact iff_of_false nofun (List.not_mem_nil)
  | cons f fs ih =>
    obtain ⟨name', y⟩ := f
    rw [Table.lookup_cons_ite, List.mem_cons, Prod.mk.injEq]
    rw [List.map_cons, List.count_cons] at h
    by_cases hname : name = name'
    · have habsent : (name, x) ∉ fs := by
        intro hmem
        have hpositive : 1 ≤ (fs.map (·.1)).count name :=
          List.one_le_count_iff.2 (List.mem_map.2 ⟨_, hmem, rfl⟩)
        rw [if_pos (beq_iff_eq.2 hname.symm)] at h
        omega
      rw [if_pos hname, Option.some_inj]
      exact ⟨fun hy ↦ .inl ⟨hname, hy.symm⟩, fun hx ↦ (hx.resolve_right habsent).2.symm⟩
    · rw [if_neg hname, ih (Nat.le_trans (Nat.le_add_right ..) h)]
      exact ⟨.inr, fun hx ↦ hx.resolve_left fun hfirst ↦ hname hfirst.1⟩

theorem eq_of_mem {y : δ} (h : (given.map (·.1)).count name ≤ 1) (hx : (name, x) ∈ given)
    (hy : (name, y) ∈ given) : x = y :=
  Option.some.inj (((lookup_eq_some_iff h).2 hx).symm.trans ((lookup_eq_some_iff h).2 hy))

theorem nodup_of_once (honce : ∀ name ∈ names, (given.map (·.1)).count name ≤ 1)
    (hwithin : ∀ f ∈ given, f.1 ∈ names) : (given.map (·.1)).Nodup := by
  refine List.nodup_iff_count_le_one.2 fun name ↦ ?_
  by_cases hname : name ∈ names
  · exact honce name hname
  · refine (List.count_eq_zero.2 fun hmem ↦ hname ?_).trans_le (Nat.zero_le 1)
    obtain ⟨f, hf, rfl⟩ := List.mem_map.1 hmem
    exact hwithin f hf

/-- Two names and nothing else, each given once. -/
theorem perm_pair_iff {name₁ name₂ : String} {x₁ x₂ : δ} (hne : name₁ ≠ name₂) :
    given.Perm [(name₁, x₁), (name₂, x₂)] ↔
      (∀ name ∈ [name₁, name₂], (given.map (·.1)).count name ≤ 1) ∧
      (∀ f ∈ given, f.1 ∈ [name₁, name₂]) ∧ (name₁, x₁) ∈ given ∧ (name₂, x₂) ∈ given := by
  have hpair : [name₁, name₂].Nodup := by simpa using hne
  constructor
  · intro hperm
    refine ⟨fun name _ ↦ ?_, fun f hf ↦ ?_, hperm.mem_iff.2 (by simp), hperm.mem_iff.2 (by simp)⟩
    · rw [(hperm.map (·.1)).count_eq]
      exact List.nodup_iff_count_le_one.1 hpair name
    · obtain rfl | rfl := List.mem_pair.1 (hperm.mem_iff.1 hf) <;> simp
  · rintro ⟨honce, hwithin, hfirst, hsecond⟩
    have hnodup := nodup_of_once honce hwithin
    have hpair' : [(name₁, x₁), (name₂, x₂)].Nodup := .of_map Prod.fst hpair
    refine (List.perm_ext_iff_of_nodup hnodup.of_map hpair').2 fun f ↦ ?_
    obtain ⟨name, x⟩ := f
    rw [List.mem_pair]
    constructor
    · intro hf
      rcases List.mem_pair.1 (hwithin _ hf) with rfl | rfl
      · exact .inl (congrArg _ (eq_of_mem (honce _ (by simp)) hf hfirst))
      · exact .inr (congrArg _ (eq_of_mem (honce _ (by simp)) hf hsecond))
    · rintro (heq | heq)
      · exact heq ▸ hfirst
      · exact heq ▸ hsecond

theorem read_eq_some_iff {j : Json} {f : Fields Json} : read names j = some f ↔
    ∃ given, j.fields? names = some given ∧
      (∀ name ∈ names, (given.map (·.1)).count name ≤ 1) ∧ f = ⟨given⟩ := by
  simp only [read, Option.bind_eq_bind, Option.bind_eq_some_iff, ← distinct_iff]
  refine exists_congr fun given ↦ and_congr_right' ?_
  split
  · next hdistinct => exact ⟨fun h ↦ ⟨hdistinct, (Option.some.inj h).symm⟩, fun h ↦ h.2 ▸ rfl⟩
  · next hdistinct => exact iff_of_false nofun fun h ↦ hdistinct h.1

theorem readStrictly_eq_some_iff {j : Json} {f : Fields Json} :
    readStrictly names j = some f ↔ read names j = some f ∧ ∀ g ∈ f.given, g.1 ∈ names := by
  simp only [readStrictly, Option.bind_eq_bind, Option.bind_eq_some_iff]
  constructor
  · rintro ⟨f', hread, h⟩
    split at h
    · next hall =>
      cases h
      exact ⟨hread, fun g hg ↦ List.contains_iff_mem.1 (List.all_eq_true.1 hall g hg)⟩
    · cases h
  · rintro ⟨hread, hwithin⟩
    refine ⟨f, hread, if_pos ?_⟩
    exact List.all_eq_true.2 fun g hg ↦ List.contains_iff_mem.2 (hwithin g hg)

theorem required_eq_some_iff (h : (given.map (·.1)).count name ≤ 1) :
    required ⟨given⟩ name decode = some a ↔ ∃ x, (name, x) ∈ given ∧ decode x = some a := by
  rw [required, Option.bind_eq_some_iff]
  exact exists_congr fun x ↦ and_congr_left' (lookup_eq_some_iff h)

theorem optional_eq_some_iff (h : (given.map (·.1)).count name ≤ 1)
    (hdecode : ∀ x a, decode x = some a ↔ Denotes x a) :
    optional ⟨given⟩ name fallback decode = some a ↔ Tells given name Denotes fallback a := by
  unfold optional
  cases hx : given.lookup name with
  | none =>
    have habsent := lookup_eq_none_iff.1 hx
    constructor
    · rintro ⟨⟩
      exact .omitted habsent
    · rintro (⟨hmem, _⟩ | _)
      · exact absurd rfl (habsent _ hmem)
      · rfl
  | some x =>
    have hmem := (lookup_eq_some_iff h).1 hx
    constructor
    · exact fun ha ↦ .given hmem ((hdecode x a).1 ha)
    · rintro (⟨hmem', ha⟩ | hnone)
      · rw [← lookup_eq_some_iff h, hx] at hmem'
        cases hmem'
        exact (hdecode _ _).2 ha
      · exact absurd rfl (hnone _ hmem)

theorem Tells.mono (hsub : ∀ x, (name, x) ∈ given ↔ (name, x) ∈ given')
    (h : Tells given name Denotes fallback a) : Tells given' name Denotes fallback a := by
  obtain ⟨hmem, ha⟩ | hnone := h
  · exact .given ((hsub _).1 hmem) ha
  · refine .omitted fun f hf heq ↦ ?_
    obtain ⟨name', x⟩ := f
    cases heq
    exact hnone _ ((hsub x).2 hf) rfl

end Fields

/-! ### Numbers and texts -/

theorem Json.nat?_eq_some_iff {range : IntegerRange} (hlo : range.lo = 0) {j : Json} {n : Nat} :
    j.nat? range = some n ↔ j = .int n ∧ (n : Int) ≤ range.hi := by
  constructor
  · intro h
    unfold Json.nat? Json.int? at h
    split at h
    · next m =>
      split at h
      · next hin =>
        cases h
        rw [IntegerRange.contains, Bool.and_eq_true, decide_eq_true_iff, decide_eq_true_iff,
          hlo] at hin
        exact ⟨by rw [Int.toNat_of_nonneg hin.1], (Int.toNat_of_nonneg hin.1).le.trans hin.2⟩
      · cases h
    · cases h
  · rintro ⟨rfl, hhi⟩
    exact Json.nat?_natCast hlo.le hhi

theorem Json.nat?_unsigned64_iff {j : Json} {n : Nat} :
    j.nat? .unsigned64 = some n ↔ j = .int n ∧ n < 0x10000000000000000 := by
  rw [nat?_eq_some_iff rfl]
  refine and_congr_right' ?_
  change (n : Int) ≤ 0xffffffffffffffff ↔ _
  omega

theorem Json.nat?_unsigned32_iff {j : Json} {n : Nat} :
    j.nat? .unsigned32 = some n ↔ j = .int n ∧ n < 0x100000000 := by
  rw [nat?_eq_some_iff rfl]
  refine and_congr_right' ?_
  change (n : Int) ≤ 0xffffffff ↔ _
  omega

theorem Json.text?_eq_some_iff {j : Json} {s : String} : j.text? = some s ↔ j = .str s := by
  cases j <;> simp [Json.text?]

/-! ### Lengths of time -/

namespace Duration

variable {seconds nanos : Nat} {d : Duration} {j : Json} {members : List (String × Json)}

/-- So many seconds and nanoseconds together, when 64 bits hold the whole seconds. -/
structure Sums (seconds nanos : Nat) (d : Duration) : Prop where
  fits : nanos < 0x100000000
  carried : d.IsCarried
  length : d.toNanos = seconds * nanosPerSecond + nanos

/-- A value that is read as a length of time has seconds and nanoseconds and nothing besides,
by name or one after the other. -/
inductive Denotes : Json → Duration → Prop
  | named {members : List (String × Json)} {seconds nanos : Nat} {d : Duration} :
      members.Perm [("secs", .int seconds), ("nanos", .int nanos)] → Sums seconds nanos d →
      Denotes (.obj members) d
  | listed {seconds nanos : Nat} {d : Duration} : Sums seconds nanos d →
      Denotes (.arr [.int seconds, .int nanos]) d

theorem Sums.seconds_lt (h : Sums seconds nanos d) : seconds < 0x10000000000000000 := by
  obtain ⟨_, ⟨hseconds, hnanos⟩, hlength⟩ := h
  unfold toNanos at hlength
  unfold nanosPerSecond at hnanos hlength
  omega

theorem carry?_eq_some_iff : carry? seconds nanos = some d ↔
    d.IsCarried ∧ d.toNanos = seconds * nanosPerSecond + nanos := by
  constructor
  · intro h
    refine ⟨isCarried_of_carry? h, ?_⟩
    unfold carry? at h
    dsimp only at h
    split at h
    · cases h
      unfold toNanos nanosPerSecond
      dsimp only
      omega
    · cases h
  · rintro ⟨⟨hseconds, hnanos⟩, hlength⟩
    unfold toNanos at hlength
    unfold nanosPerSecond at hnanos hlength
    have hwhole : seconds + nanos / 1000000000 = d.seconds := by omega
    have hpart : nanos % 1000000000 = d.nanos := by omega
    unfold carry? nanosPerSecond
    dsimp only
    rw [hwhole, hpart, if_pos hseconds]

theorem fields?_perm_iff {x y : Json} :
    (∃ given, j.fields? ["secs", "nanos"] = some given ∧
      given.Perm [("secs", x), ("nanos", y)]) ↔
    (∃ members, j = .obj members ∧ members.Perm [("secs", x), ("nanos", y)]) ∨ j = .arr [x, y] := by
  cases j with
  | obj members => simp [Json.fields?]
  | arr items =>
    -- Items are named by their places, so two of them have both names and the same order.
    match items with
    | [] | [_] | _ :: _ :: _ :: _ => simp [Json.fields?, List.perm_comm]
    | [a, b] =>
      have hpair :
          [("secs", a), ("nanos", b)].Perm [("secs", x), ("nanos", y)] ↔ a = x ∧ b = y := by
        constructor
        · intro hperm
          have ha := hperm.mem_iff.1 (List.mem_cons_self ..)
          have hb := hperm.mem_iff.1 (List.mem_cons_of_mem _ (List.mem_cons_self ..))
          simpa using And.intro ha hb
        · rintro ⟨rfl, rfl⟩
          rfl
      simpa [Json.fields?] using hpair
  | _ => simp [Json.fields?]

theorem read?_eq_some_iff : read? j = some d ↔ Denotes j d := by
  simp only [read?, Option.bind_eq_bind, Option.bind_eq_some_iff, Fields.readStrictly_eq_some_iff,
    Fields.read_eq_some_iff, carry?_eq_some_iff]
  constructor
  · rintro ⟨_, ⟨⟨given, hgiven, honce, rfl⟩, hwithin⟩, seconds, hseconds, nanos, hnanos, hcarry⟩
    obtain ⟨_, hx, hseconds⟩ := (Fields.required_eq_some_iff (honce _ (by simp))).1 hseconds
    obtain ⟨_, hy, hnanos⟩ := (Fields.required_eq_some_iff (honce _ (by simp))).1 hnanos
    obtain ⟨rfl, _⟩ := Json.nat?_unsigned64_iff.1 hseconds
    obtain ⟨rfl, hfits⟩ := Json.nat?_unsigned32_iff.1 hnanos
    have hsums : Sums seconds nanos d := ⟨hfits, hcarry.1, hcarry.2⟩
    have hperm := (Fields.perm_pair_iff (by decide)).2 ⟨honce, hwithin, hx, hy⟩
    obtain ⟨members, rfl, hmembers⟩ | rfl := fields?_perm_iff.1 ⟨given, hgiven, hperm⟩
    · exact .named hmembers hsums
    · exact .listed hsums
  · intro h
    obtain ⟨seconds, nanos, hsums, given, hgiven, hperm⟩ : ∃ seconds nanos : Nat,
        Sums seconds nanos d ∧ ∃ given, j.fields? ["secs", "nanos"] = some given ∧
          given.Perm [("secs", .int seconds), ("nanos", .int nanos)] := by
      cases h with
      | named hmembers hsums => exact ⟨_, _, hsums, fields?_perm_iff.2 (.inl ⟨_, rfl, hmembers⟩)⟩
      | listed hsums => exact ⟨_, _, hsums, fields?_perm_iff.2 (.inr rfl)⟩
    obtain ⟨honce, hwithin, hx, hy⟩ := (Fields.perm_pair_iff (by decide)).1 hperm
    refine ⟨⟨given⟩, ⟨⟨given, hgiven, honce, rfl⟩, hwithin⟩, seconds, ?_, nanos, ?_,
      hsums.carried, hsums.length⟩
    · refine (Fields.required_eq_some_iff (honce _ (by simp))).2 ⟨_, hx, ?_⟩
      exact Json.nat?_unsigned64_iff.2 ⟨rfl, hsums.seconds_lt⟩
    · refine (Fields.required_eq_some_iff (honce _ (by simp))).2 ⟨_, hy, ?_⟩
      exact Json.nat?_unsigned32_iff.2 ⟨rfl, hsums.fits⟩

end Duration

/-! ### Messages -/

section

variable {α : Type} {read : Json → Option α} {queue : String} {body : Body} {a : α}

theorem decodeMessage_eq_ok_iff :
    decodeMessage read queue body = .ok a ↔ body.json?.bind read = some a := by
  unfold decodeMessage
  split
  · next hread => rw [hread, Except.ok.injEq, Option.some_inj]
  · next hread => exact iff_of_false nofun (by rw [hread]; nofun)

theorem decodeMessage_cases : (∃ a, decodeMessage read queue body = .ok a) ∨
    ∃ reason, decodeMessage read queue body = .error (.malformedMessage queue reason) := by
  unfold decodeMessage
  split
  · exact .inl ⟨_, rfl⟩
  · exact .inr ⟨_, rfl⟩

end

namespace ScheduleRequest

variable {r : ScheduleRequest} {members members' : List (String × Json)} {queue : String}
  {body body' : Body}

def fieldNames : List String := ["key", "lastBackoffTime", "processedTime", "message"]

/-- An object with these members tells of the request. Its key stands there; the rest may be left
out where it is zero or empty. Nothing of it is given twice. -/
structure ToldBy (r : ScheduleRequest) (members : List (String × Json)) : Prop where
  once : ∀ name ∈ fieldNames, (members.map (·.1)).count name ≤ 1
  key : ("key", .str r.key) ∈ members
  lastBackoff : Fields.Tells members "lastBackoffTime"
    (fun j (n : Nat) ↦ j = .int n ∧ n < 0x10000000000000000) 0 r.lastBackoff
  processed : Fields.Tells members "processedTime" Duration.Denotes .zero r.processed
  message : Fields.Tells members "message" (fun j s ↦ j = .str s) "" r.message

theorem toldBy_iff (honce : ∀ name ∈ fieldNames, (members.map (·.1)).count name ≤ 1) :
    r.ToldBy members ↔
      Fields.required ⟨members⟩ "key" Json.text? = some r.key ∧
      Fields.optional ⟨members⟩ "lastBackoffTime" 0 (Json.nat? .unsigned64) = some r.lastBackoff ∧
      Fields.optional ⟨members⟩ "processedTime" .zero Duration.read? = some r.processed ∧
      Fields.optional ⟨members⟩ "message" "" Json.text? = some r.message := by
  rw [Fields.required_eq_some_iff (honce _ (by simp [fieldNames])),
    Fields.optional_eq_some_iff (honce _ (by simp [fieldNames]))
      fun _ _ ↦ Json.nat?_unsigned64_iff,
    Fields.optional_eq_some_iff (honce _ (by simp [fieldNames]))
      fun _ _ ↦ Duration.read?_eq_some_iff,
    Fields.optional_eq_some_iff (honce _ (by simp [fieldNames])) fun _ _ ↦ Json.text?_eq_some_iff]
  constructor
  · rintro ⟨_, hmem, hbackoff, hprocessed, hmessage⟩
    exact ⟨⟨_, hmem, rfl⟩, hbackoff, hprocessed, hmessage⟩
  · rintro ⟨⟨_, hmem, htext⟩, hbackoff, hprocessed, hmessage⟩
    obtain rfl := Json.text?_eq_some_iff.1 htext
    exact ⟨honce, hmem, hbackoff, hprocessed, hmessage⟩

theorem read?_obj_iff : read? (Json.obj members) = some r ↔ r.ToldBy members := by
  simp only [read?, Option.bind_eq_bind, Option.bind_eq_some_iff, Fields.read_eq_some_iff]
  constructor
  · rintro ⟨_, ⟨_, ⟨⟩, honce, rfl⟩, key, hkey, lastBackoff, hbackoff, processed, hprocessed,
      message, hmessage, ⟨⟩⟩
    exact (toldBy_iff honce).2 ⟨hkey, hbackoff, hprocessed, hmessage⟩
  · intro h
    obtain ⟨hkey, hbackoff, hprocessed, hmessage⟩ := (toldBy_iff h.once).1 h
    exact ⟨⟨members⟩, ⟨members, rfl, h.once, rfl⟩, r.key, hkey, r.lastBackoff, hbackoff,
      r.processed, hprocessed, r.message, hmessage, rfl⟩

def known (members : List (String × Json)) : List (String × Json) :=
  members.filter fun m ↦ fieldNames.contains m.1

theorem mem_known_iff {name : String} {j : Json} (hname : name ∈ fieldNames) :
    (name, j) ∈ known members ↔ (name, j) ∈ members := by
  rw [known, List.mem_filter]
  exact and_iff_left (List.contains_iff_mem.2 hname)

theorem count_known {name : String} (hname : name ∈ fieldNames) :
    ((known members).map (·.1)).count name = (members.map (·.1)).count name := by
  have hfilter : (known members).map (·.1) = (members.map (·.1)).filter fieldNames.contains := by
    rw [known, List.filter_map]
    rfl
  rw [hfilter, List.count_filter (List.contains_iff_mem.2 hname)]

theorem ToldBy.of_known (hperm : (known members).Perm (known members')) (h : r.ToldBy members) :
    r.ToldBy members' := by
  have hmem {name : String} (hname : name ∈ fieldNames) (j : Json) :
      (name, j) ∈ members ↔ (name, j) ∈ members' := by
    rw [← mem_known_iff hname, hperm.mem_iff, mem_known_iff hname]
  refine ⟨fun name hname ↦ ?_, (hmem (by simp [fieldNames]) _).1 h.key,
    h.lastBackoff.mono (hmem (by simp [fieldNames])),
    h.processed.mono (hmem (by simp [fieldNames])),
    h.message.mono (hmem (by simp [fieldNames]))⟩
  rw [← count_known hname, ← (hperm.map (·.1)).count_eq, count_known hname]
  exact h.once name hname

theorem toldBy_congr (hperm : (known members).Perm (known members')) :
    r.ToldBy members ↔ r.ToldBy members' := ⟨.of_known hperm, .of_known hperm.symm⟩

theorem decode_eq_ok_iff (hbody : body.json? = some (.obj members)) :
    decodeMessage read? queue body = .ok r ↔ r.ToldBy members := by
  rw [decodeMessage_eq_ok_iff, hbody, Option.bind_some, read?_obj_iff]

theorem decode_of_no_key (hbody : body.json? = some (.obj members))
    (hkey : ∀ m ∈ members, m.1 ≠ "key") :
    ∃ reason, decodeMessage read? queue body = .error (.malformedMessage queue reason) := by
  refine decodeMessage_cases.resolve_left ?_
  rintro ⟨r, hr⟩
  exact hkey _ ((decode_eq_ok_iff hbody).1 hr).key rfl

theorem decode_congr (hbody : body.json? = some (.obj members))
    (hbody' : body'.json? = some (.obj members'))
    (hperm : (known members).Perm (known members')) :
    decodeMessage read? queue body = decodeMessage read? queue body' := by
  have hread : read? (Json.obj members) = read? (Json.obj members') := by
    refine Option.ext fun r ↦ ?_
    rw [read?_obj_iff, read?_obj_iff, toldBy_congr hperm]
  unfold decodeMessage
  rw [hbody, hbody', Option.bind_some, Option.bind_some, hread]

/-- Requests, also those that wait, are read as they were sent. An object is read as a request
exactly if it tells of it, where what is left out is zero or empty, but not the key. Members that a
request does not have do not count, nor does the order of the others. What was read is sent as a
text that is read as the same request. -/
theorem requests_carried (queue : String) :
    (∀ r : ScheduleRequest, r.IsRead → decodeMessage read? queue r.encode = .ok r) ∧
    (∀ r : RetryRequest, r.request.IsRead →
      decodeMessage RetryRequest.read? queue r.encode = .ok r) ∧
    ∀ body members, body.json? = some (.obj members) →
      (∀ r, decodeMessage read? queue body = .ok r ↔ r.ToldBy members) ∧
      ((∀ m ∈ members, m.1 ≠ "key") → ∃ reason,
        decodeMessage read? queue body = .error (.malformedMessage queue reason)) ∧
      (∀ body' members', body'.json? = some (.obj members') →
        (known members).Perm (known members') →
        decodeMessage read? queue body = decodeMessage read? queue body') ∧
      ∀ r, decodeMessage read? queue body = .ok r →
        r.IsRead ∧ ∀ queue', decodeMessage read? queue' r.encode = .ok r :=
  ⟨fun _ h ↦ decode_encode h queue, fun _ h ↦ RetryRequest.decode_encode h queue,
    fun _ _ hbody ↦ ⟨fun _ ↦ decode_eq_ok_iff hbody, decode_of_no_key hbody,
      fun _ _ hbody' ↦ decode_congr hbody hbody',
      fun _ h ↦ ⟨isRead_of_decode h, decode_encode (isRead_of_decode h)⟩⟩⟩

/-- The largest request, with text that has to be escaped, and an object with two members that no
request has, a surrogate pair and more nanoseconds than a second has. -/
theorem requests_carried_escaped :
    let largest : ScheduleRequest :=
      { key := "räder/\"7\"\n", lastBackoff := 0xffffffffffffffff,
        processed := ⟨0xffffffffffffffff, 999999999⟩, message := "0/3 nodes: \\ \x01 😀" }
    let body := "\x7b\"later\":1e999,\"message\":\"\\u0041\\ud83d\\ude00\",\"key\":\"a/b\"," ++
      "\"processedTime\":\x7b\"nanos\":1500000000,\"secs\":2\x7d,\"later\":[]\x7d"
    let body' := "\x7b\"key\":\"a/b\",\"message\":\"A😀\"," ++
      "\"processedTime\":\x7b\"nanos\":1500000000,\"secs\":2\x7d\x7d"
    let read : ScheduleRequest := { key := "a/b", processed := ⟨3, 500000000⟩, message := "A😀" }
    largest.IsRead ∧ decodeMessage read? "work" largest.encode = .ok largest ∧
    decodeMessage RetryRequest.read? "work" (RetryRequest.encode ⟨largest, "work"⟩) =
      .ok ⟨largest, "work"⟩ ∧
    decodeMessage read? "work" body = .ok read ∧ decodeMessage read? "work" body' = .ok read ∧
    read.IsRead ∧ decodeMessage read? "retry" read.encode = .ok read ∧
    ∃ reason, decodeMessage read? "work" "\x7b\"Key\":\"a/b\"\x7d" =
      .error (.malformedMessage "work" reason) := by
  intro largest body body' read
  obtain ⟨hsent, hwaiting, hobject⟩ := requests_carried "work"
  have hlargest : largest.IsRead := ⟨by decide, by decide, by decide⟩
  have hbody : Body.json? body = some (.obj [("later", .real ⟨false, 1, 999⟩),
      ("message", .str "A😀"), ("key", .str "a/b"),
      ("processedTime", .obj [("nanos", .int 1500000000), ("secs", .int 2)]),
      ("later", .arr [])]) := by
    unfold body
    cbv
  have hbody' : Body.json? body' = some (.obj [("key", .str "a/b"), ("message", .str "A😀"),
      ("processedTime", .obj [("nanos", .int 1500000000), ("secs", .int 2)])]) := by
    unfold body'
    cbv
  have hbare : Body.json? "\x7b\"Key\":\"a/b\"\x7d" = some (.obj [("Key", .str "a/b")]) := by
    cbv
  obtain ⟨hiff, _, hsame, hagain⟩ := hobject _ _ hbody
  have hsums : Duration.Sums 2 1500000000 read.processed :=
    ⟨by decide, ⟨by decide, by decide⟩, by decide⟩
  have hread : decodeMessage read? "work" body = .ok read := by
    refine (hiff read).2 ⟨by decide, by simp [read], .omitted (by simp), ?_, ?_⟩
    · exact .given (by simp) (.named (.swap ..) hsums)
    · exact .given (by simp [read]) rfl
  obtain ⟨hisRead, hretried⟩ := hagain read hread
  have hknown := hsame _ _ hbody' (.swap ..)
  exact ⟨hlargest, hsent largest hlargest, hwaiting ⟨largest, "work"⟩ hlargest, hread,
    hknown.symm.trans hread, hisRead, hretried "retry", (hobject _ _ hbare).2.1 (by simp)⟩

end ScheduleRequest

end PodPlacement
