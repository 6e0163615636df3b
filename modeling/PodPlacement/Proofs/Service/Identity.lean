import PodPlacement.Proofs.Scheduling.Eviction.Reservation
import PodPlacement.Proofs.Service.Backoff
import PodPlacement.Proofs.Service.CacheHistory
import PodPlacement.Proofs.Service.Feeding

/-!
Pods go by the text of their key: the feeder asks for them by it, the worker looks for what it reads
in it, the cache files them under it, and conditions of nodes name victims by it. Where the parts of
a key have no slash of their own and there is a name, all of them mean this pod and no other.
-/

namespace PodPlacement

variable {p q : Pod} {key key' : WorkloadKey} {n n' : Node}

theorem Pod.keyText?_of_ofPod (h : WorkloadKey.ofPod p = .ok key) : p.keyText? = some key.text := by
  rw [keyText?, h]
  rfl

theorem Pod.exists_ofPod {text : String} (h : p.keyText? = some text) :
    ∃ key, WorkloadKey.ofPod p = .ok key ∧ key.text = text := by
  unfold keyText? at h
  cases hkey : WorkloadKey.ofPod p with
  | error e =>
    rw [hkey] at h
    cases h
  | ok key =>
    rw [hkey] at h
    exact ⟨key, rfl, Option.some.inj h⟩

/-- Keys without slashes of their own are the same if their texts are. -/
theorem WorkloadKey.SlashFree.text_eq_iff (h : key.SlashFree) (h' : key'.SlashFree) :
    key'.text = key.text ↔ key' = key := by
  refine ⟨h'.text_injective h, ?_⟩
  rintro rfl
  rfl

/-! ### What the feeder asks for -/

namespace Feeder

variable {γ : Type} {f : Feeder} {c : Cache} {i : Incarnation}

theorem key_of_mem_pending (h : (p, i) ∈ f.pending c) : p.keyText? = some i.key := by
  obtain ⟨_, _, hpair⟩ := List.mem_filterMap.1 h
  obtain ⟨j, hj, heq⟩ := Option.map_eq_some_iff.1 hpair
  obtain ⟨rfl, rfl⟩ := Prod.mk.inj heq
  obtain ⟨text, htext, rfl⟩ := Option.map_eq_some_iff.1 hj
  exact htext

theorem mem_values_of_mem_pending (h : (p, i) ∈ f.pending c) : p ∈ c.cluster.pods.values := by
  obtain ⟨_, hdue, hpair⟩ := List.mem_filterMap.1 h
  obtain ⟨_, _, heq⟩ := Option.map_eq_some_iff.1 hpair
  obtain ⟨rfl, _⟩ := Prod.mk.inj heq
  exact (List.mem_filter.1 (List.mem_filter.1 hdue).1).1

theorem exists_pending_of_mem_sentBy {send : γ → Body → Except ServiceError Unit × γ}
    {now : Timestamp} {g : γ} {body : Body} (h : body ∈ sentBy send now c f g) :
    ∃ p i, (p, i) ∈ f.pending c ∧ body = (request now p i).encode := by
  obtain ⟨done, rest, hsplit, _, hsent, _⟩ := feedOnce_spec send now c f g
  rw [hsent, List.map_map] at h
  obtain ⟨⟨p, i⟩, hd, rfl⟩ := List.mem_map.1 h
  have hfresh : (p, i) ∈ f.fresh c := hsplit ▸ List.mem_append_left rest hd
  exact ⟨p, i, (mem_fresh.1 hfresh).1, rfl⟩

end Feeder

/-! ### Whom conditions name -/

theorem NodeInfo.isReservedVictim_iff_claims {n : NodeInfo} :
    n.isReservedVictim key = true ↔ some key.text ∈ n.node.claims.map (·.2) := by
  simp [isReservedVictim, Node.claims]

theorem Eviction.victimKey_of_ofPods {host : String} {preemptor victim : Pod} {e : Eviction}
    (h : ofPods host preemptor victim = .ok e) : WorkloadKey.ofPod victim = .ok e.victimKey := by
  unfold ofPods at h
  split at h
  · next hvictim =>
    cases h
    exact hvictim
  · cases h
  · cases h

namespace Evictor

variable {e : Eviction} {now : Timestamp}

/-- A reservation adds the victim to those that the conditions name, and none besides. -/
theorem isReservedVictim_of_reserve (h : edit e now .reserve n = some n') (pods : List Pod) :
    (NodeInfo.mk n' pods).isReservedVictim key = true ↔
      key.text = e.victimKey.text ∨ (NodeInfo.mk n pods).isReservedVictim key = true := by
  have hclaims := (Node.reserve?_spec h).2
  simp only [NodeInfo.isReservedVictim_iff_claims, hclaims, List.map_append, List.mem_append,
    List.map_cons, List.map_nil, List.mem_singleton, Option.some.injEq]
  exact or_comm

theorem isReservedVictim_of_release {result : Except SchedulingError Unit}
    (h : edit e now (.release result) n = some n') (pods : List Pod) :
    (NodeInfo.mk n' pods).isReservedVictim key = true ↔
      key.text ≠ e.victimKey.text ∧ (NodeInfo.mk n pods).isReservedVictim key = true := by
  have hclaims := (Node.release?_spec h).2
  simp only [NodeInfo.isReservedVictim_iff_claims, hclaims, List.mem_map, List.mem_filter,
    bne_iff_ne]
  constructor
  · rintro ⟨claim, ⟨hmem, hother⟩, hkey⟩
    exact ⟨fun heq ↦ hother (hkey.trans (congrArg some heq)), claim, hmem, hkey⟩
  · rintro ⟨hother, claim, hmem, hkey⟩
    exact ⟨claim, ⟨hmem, fun heq ↦ hother (Option.some.inj (hkey.symm.trans heq))⟩, hkey⟩

end Evictor

/-! ### One pod behind each text -/

/-- Wherever the text of a key stands for a pod, it stands for `p` and for no pod of another key. -/
structure Pod.KnownAs (p : Pod) (key : WorkloadKey) : Prop where
  /-- The feeder asks for the pod under its key, -/
  asked : ∀ (f : Feeder) (c : Cache) i, (p, i) ∈ f.pending c → i.key = key.text
  /-- and this is the key that a worker looks for. -/
  read : ∀ (w : Worker) (r : ScheduleRequest), r.IsRead → r.key = key.text →
    w.begin r.encode = .fetching r key
  filed : ∀ c : Cache, ∃ c', c.upsertPod p = .ok c' ∧ ∀ key' : WorkloadKey, key'.SlashFree →
    c'.cluster.pods.get? key'.text = if key' = key then some p else c.cluster.pods.get? key'.text
  removed : ∀ (c : Cache) (key' : WorkloadKey), key'.SlashFree →
    (c.removePod key).cluster.pods.get? key'.text =
      if key' = key then none else c.cluster.pods.get? key'.text
  held : ∀ (c : Cache) q key', c.Reachable → c.cluster.pods.get? key.text = some q →
    WorkloadKey.ofPod q = .ok key' → key'.SlashFree → key' = key
  reserved : ∀ host preemptor e now n n' pods (key' : WorkloadKey),
    Eviction.ofPods host preemptor p = .ok e → Evictor.edit e now .reserve n = some n' →
    key'.SlashFree → ((NodeInfo.mk n' pods).isReservedVictim key' = true ↔
      key' = key ∨ (NodeInfo.mk n pods).isReservedVictim key' = true)
  released : ∀ host preemptor e now result n n' pods (key' : WorkloadKey),
    Eviction.ofPods host preemptor p = .ok e → Evictor.edit e now (.release result) n = some n' →
    key'.SlashFree → ((NodeInfo.mk n' pods).isReservedVictim key' = true ↔
      key' ≠ key ∧ (NodeInfo.mk n pods).isReservedVictim key' = true)

theorem Pod.knownAs (hkey : WorkloadKey.ofPod p = .ok key) (hfree : key.SlashFree)
    (hname : key.name ≠ "") : p.KnownAs key where
  asked f c i hpending := by
    have htext := Feeder.key_of_mem_pending hpending
    rw [keyText?_of_ofPod hkey] at htext
    exact (Option.some.inj htext).symm
  read w r hread hr := Worker.begin_encode hread (hr ▸ hfree.parse_text hname)
  filed c := by
    refine ⟨{ c with cluster.pods := c.cluster.pods.insert key.text p }, ?_, ?_⟩
    · rw [Cache.upsertPod, hkey]
    · intro key' hfree'
      simp only [Table.get?_insert, hfree.text_eq_iff hfree']
  removed c key' hfree' := by
    simp only [Cache.removePod, Table.get?_erase, hfree.text_eq_iff hfree']
  held c q key' hreachable hget hq hfree' := by
    have htext := hreachable.keyed _ (Table.get?_eq_some_iff.1 hget)
    rw [keyText?_of_ofPod hq] at htext
    exact hfree'.text_injective hfree (Option.some.inj htext)
  reserved host preemptor e now n n' pods key' he hedit hfree' := by
    obtain rfl : key = e.victimKey :=
      Except.ok.inj (hkey.symm.trans (Eviction.victimKey_of_ofPods he))
    rw [Evictor.isReservedVictim_of_reserve hedit, hfree.text_eq_iff hfree']
  released host preemptor e now result n n' pods key' he hedit hfree' := by
    obtain rfl : key = e.victimKey :=
      Except.ok.inj (hkey.symm.trans (Eviction.victimKey_of_ofPods he))
    rw [Evictor.isReservedVictim_of_release hedit, Ne, hfree.text_eq_iff hfree']

namespace WorkloadKey

open Feeder (sentBy request)

/-- A text is read as a key exactly if it is spelled like one, with one slash at most and something
behind it; what was read is read from its own text again, and keys that have a name and no slashes
of their own all differ in their texts. So whatever the feeder sends names a pod by the key that the
worker then looks for, and the caches and the conditions of nodes mean no other pod by it. -/
theorem texts_identify :
    (∀ s k, parse s = .ok k ↔ Spells s k) ∧
    (∀ s, (∃ k, parse s = .ok k) ↔ s.toList.count '/' ≤ 1 ∧ lastPart s ≠ []) ∧
    (∀ s k, parse s = .ok k → parse k.text = .ok k) ∧
    (∀ k : WorkloadKey, k.SlashFree → k.name ≠ "" → parse k.text = .ok k) ∧
    (∀ k k' : WorkloadKey, k.SlashFree → k.name ≠ "" → k'.SlashFree → k'.name ≠ "" →
      k.text = k'.text → k = k') ∧
    (∀ p key, ofPod p = .ok key → key.SlashFree → key.name ≠ "" → p.KnownAs key) ∧
    ∀ {γ : Type} (send : γ → Body → Except ServiceError Unit × γ) (now : Timestamp) (c : Cache)
      (f : Feeder) (g : γ), ∀ body ∈ sentBy send now c f g, ∃ p i key,
        p ∈ c.cluster.pods.values ∧ ofPod p = .ok key ∧ i.key = key.text ∧
        body = (request now p i).encode ∧
        ((p.waitingSince now).IsCarried → key.SlashFree → key.name ≠ "" → ∀ w : Worker,
          w.begin body = .fetching (request now p i) key) := by
  refine ⟨fun _ _ ↦ parse_eq_ok_iff, fun _ ↦ exists_parse_iff, fun _ _ ↦ parse_text_of_parse,
    fun _ ↦ SlashFree.parse_text, fun _ _ hfree _ hfree' _ ↦ hfree.text_injective hfree',
    fun _ _ ↦ Pod.knownAs, fun send now c f g body hbody ↦ ?_⟩
  obtain ⟨p, i, hpending, rfl⟩ := Feeder.exists_pending_of_mem_sentBy hbody
  obtain ⟨key, hkey, htext⟩ := Pod.exists_ofPod (Feeder.key_of_mem_pending hpending)
  refine ⟨p, i, key, Feeder.mem_values_of_mem_pending hpending, hkey, htext.symm, rfl,
    fun hcarried hfree hname w ↦ ?_⟩
  exact (Pod.knownAs hkey hfree hname).read w _ ⟨Nat.two_pow_pos 64, hcarried⟩ htext.symm

/-- A pod that names no namespace, and keys with an empty one. -/
theorem texts_identify_unnamed_space :
    let web : Pod :=
      { metadata := { name := some "web" },
        spec := some { containers := [], schedulerName := some "placer" } }
    let key : WorkloadKey := ⟨"default", "web"⟩
    let bare : WorkloadKey := ⟨"", "web"⟩
    let cache := Cache.replace {} [] [web]
    let feeder : Feeder := { queue := "work", schedulerName := "placer" }
    let send (_ : Unit) (_ : Body) : Except ServiceError Unit × Unit := (.ok (), ())
    let body := ({ key := "default/web" } : ScheduleRequest).encode
    ofPod web = .ok key ∧ key.SlashFree ∧ key.name ≠ "" ∧ web.KnownAs key ∧
    body ∈ sentBy send default cache feeder () ∧
    (∃ p i k, p ∈ cache.cluster.pods.values ∧ ofPod p = .ok k ∧ i.key = k.text ∧
      body = (request default p i).encode) ∧
    (∀ w : Worker, w.begin body = .fetching { key := "default/web" } key) ∧
    parse "/web" = .ok bare ∧ parse "web" = .ok bare ∧ bare.text ≠ key.text ∧
    ¬∃ k, parse "default/web/0" = .ok k := by
  intro web key bare cache feeder send body
  obtain ⟨hspells, hcount, hagain, hback, hdiffer, hknown, hsent⟩ := texts_identify
  have hkey : ofPod web = .ok key := rfl
  have hfree : key.SlashFree := ⟨by decide, by decide⟩
  have hbare : bare.SlashFree := ⟨by decide, by decide⟩
  have hweb := hknown web key hkey hfree (by decide)
  have hbody : body ∈ sentBy send default cache feeder () := by decide +kernel
  obtain ⟨p, i, k, hp, hk, hi, hencode, _⟩ := hsent send default cache feeder () body hbody
  have hwithin : Spells ("" ++ "/" ++ "web") bare := .within (by decide) (by decide) (by decide)
  have hslash : parse "/web" = .ok bare := (hspells _ _).2 hwithin
  refine ⟨hkey, hfree, by decide, hweb, hbody, ⟨p, i, k, hp, hk, hi, hencode⟩,
    fun w ↦ hweb.read w _ ⟨by decide, by decide, by decide⟩ (by decide), hslash,
    hagain _ _ hslash, fun htext ↦ ?_, ?_⟩
  · have hsame := hdiffer bare key hbare (by decide) hfree (by decide) htext
    exact absurd hsame (by decide)
  · rw [hcount]
    decide

end WorkloadKey

end PodPlacement
