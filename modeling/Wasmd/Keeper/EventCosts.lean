import Wasmd.Keeper.SetupCost

/-!
# The costs of events and replies in closed form

`EventCosts` threads a free tier through the attributes of a response and of its events.

* `exactEventCosts`, `replyEventCosts` — the costs as numbers, over all attributes together.
* `customEventCosts_exact` — the loop over the events, for any free tier that is left.
* `event_costs_closed_form` — the code computes these numbers, so the free tier is granted once and
  the order of events does not matter.
* `event_costs_wrap` — without the bound on the bytes it does not.
-/

namespace Wasmd

open ByteStore

/-! ## The numbers -/

/-- The bytes of keys and values. -/
def attributeBytes (attrs : List Attribute) : ℕ :=
  (attrs.map fun a => a.key.utf8ByteSize + a.value.utf8ByteSize).sum

/-- All attributes, those of the events included. -/
def allAttributes (attrs : List Attribute) (events : List Event) : List Attribute :=
  attrs ++ events.flatMap Event.attributes

/-- What the attributes cost beyond a free tier. -/
def exactAttributeCosts (c : WasmGasRegisterConfig) (attrs : List Attribute) (freeTier : ℕ) : ℕ :=
  c.eventPerAttributeCost.toNat * attrs.length +
    c.eventAttributeDataCost.toNat * (attributeBytes attrs - freeTier)

/-- What the types of the events cost, with the cost of each event. -/
def exactTypeCosts (c : WasmGasRegisterConfig) (perEvent : ℕ) (types : List String) : ℕ :=
  (types.map fun t => perEvent + c.eventAttributeDataCost.toNat * t.utf8ByteSize).sum

/-- `EventCosts` in closed form. -/
def exactEventCosts (c : WasmGasRegisterConfig) (attrs : List Attribute) (events : List Event) :
    ℕ :=
  exactAttributeCosts c (allAttributes attrs events) c.eventAttributeDataFreeTier.toNat +
    exactTypeCosts c c.customEventCost.toNat (events.map Event.type)

/-- The events of a reply. -/
def Reply.events (reply : Reply) : List Event := (reply.result.ok.map (·.events)).getD []

/-- The length of the error and the data of a reply. -/
def Reply.size (reply : Reply) : ℕ :=
  reply.result.err.utf8ByteSize + ((reply.result.ok.bind (·.data)).getD []).length

/-- The part of `ReplyCosts` for the events. -/
def replyEventCosts (c : WasmGasRegisterConfig) (reply : Reply) : ℕ :=
  exactTypeCosts c 0 (reply.events.map Event.type) +
    exactAttributeCosts c (reply.events.flatMap Event.attributes) c.eventAttributeDataFreeTier.toNat

/-! ## Attributes -/

@[simp] theorem attributeBytes_nil : attributeBytes [] = 0 := rfl

theorem attributeBytes_append (l l' : List Attribute) :
    attributeBytes (l ++ l') = attributeBytes l + attributeBytes l' := by
  rw [attributeBytes, List.map_append, List.sum_append]
  rfl

/-- The free tier that one list leaves is used by the next. -/
theorem exactAttributeCosts_append (c : WasmGasRegisterConfig) (l l' : List Attribute)
    (freeTier : ℕ) : exactAttributeCosts c (l ++ l') freeTier =
      exactAttributeCosts c l freeTier +
        exactAttributeCosts c l' (freeTier - attributeBytes l) := by
  have hbytes : attributeBytes l + attributeBytes l' - freeTier =
      attributeBytes l - freeTier + (attributeBytes l' - (freeTier - attributeBytes l)) := by omega
  rw [exactAttributeCosts, exactAttributeCosts, exactAttributeCosts, attributeBytes_append, hbytes,
    List.length_append, Nat.mul_add, Nat.mul_add]
  omega

theorem toNat_calcWithFreeTier (storedBytes freeTier : UInt64) :
    (calcWithFreeTier storedBytes freeTier).1.toNat = storedBytes.toNat - freeTier.toNat ∧
      (calcWithFreeTier storedBytes freeTier).2.toNat = freeTier.toNat - storedBytes.toNat := by
  unfold calcWithFreeTier
  by_cases h : storedBytes ≤ freeTier
  · have hle := UInt64.le_iff_toNat_le.mp h
    rw [if_pos h, UInt64.toNat_sub_of_le _ _ h]
    exact ⟨(Nat.sub_eq_zero_of_le hle).symm, rfl⟩
  · have hle : freeTier ≤ storedBytes := UInt64.le_of_lt (UInt64.not_le.mp h)
    have hle' := UInt64.le_iff_toNat_le.mp hle
    rw [if_neg h, UInt64.toNat_sub_of_le _ _ hle]
    exact ⟨rfl, (Nat.sub_eq_zero_of_le hle').symm⟩

/-- A number below the bound is not changed. -/
theorem Wraps.exact {x : UInt64} {n : ℕ} (h : Wraps x n) (hn : n < 2 ^ 64) : x.toNat = n :=
  h.trans (Nat.mod_eq_of_lt hn)

theorem storedBytes_wraps (attrs : List Attribute) :
    Wraps (attrs.foldl (fun n l => n + (lenString l.key + lenString l.value)) 0)
      (attributeBytes attrs) := by
  have hwraps := Wraps.foldl (x := 0) (n := 0)
    (f := fun l : Attribute => lenString l.key + lenString l.value)
    (g := fun l : Attribute => l.key.utf8ByteSize + l.value.utf8ByteSize)
    (fun l => (Wraps.ofNat _).add (Wraps.ofNat _)) attrs (Wraps.toNat 0)
  rw [Nat.zero_add] at hwraps
  exact hwraps

section Costs

variable {g : WasmGasRegister}

/-- **The cost of a list of attributes**, and the free tier that is left. -/
theorem eventAttributeCosts_exact (g : WasmGasRegister) (attrs : List Attribute) (freeTier : UInt64)
    (hbytes : attributeBytes attrs < 2 ^ 64)
    (hcost : exactAttributeCosts g.c attrs freeTier.toNat < 2 ^ 64) :
    ∃ left : UInt64, left.toNat = freeTier.toNat - attributeBytes attrs ∧
      g.eventAttributeCosts attrs freeTier =
        .ok (UInt64.ofNat (exactAttributeCosts g.c attrs freeTier.toNat), left) := by
  by_cases hempty : attrs = []
  · subst hempty
    exact ⟨freeTier, rfl, by simp [WasmGasRegister.eventAttributeCosts, exactAttributeCosts]⟩
  · obtain ⟨hpaid, hleft⟩ := toNat_calcWithFreeTier
      (attrs.foldl (fun n l => n + (lenString l.key + lenString l.value)) 0) freeTier
    rw [(storedBytes_wraps attrs).exact hbytes] at hpaid hleft
    refine ⟨_, hleft, ?_⟩
    have hr : g.c.eventAttributeDataCost.toNat * (attributeBytes attrs - freeTier.toNat) +
        g.c.eventPerAttributeCost.toNat * attrs.length =
          exactAttributeCosts g.c attrs freeTier.toNat := by
      rw [exactAttributeCosts, Nat.add_comm]
    simp only [WasmGasRegister.eventAttributeCosts, if_neg hempty, hpaid, hr, if_pos hcost]

/-! ## Events -/

/-- **The loop over the events**, from any sum and any free tier. -/
theorem customEventCosts_exact (g : WasmGasRegister) (events : List Event) (gas freeTier : UInt64)
    (hbytes : attributeBytes (events.flatMap Event.attributes) < 2 ^ 64)
    (hcost : gas.toNat + exactAttributeCosts g.c (events.flatMap Event.attributes) freeTier.toNat +
      exactTypeCosts g.c g.c.customEventCost.toNat (events.map Event.type) < 2 ^ 64) :
    g.customEventCosts events gas freeTier = .ok (UInt64.ofNat (gas.toNat +
      exactAttributeCosts g.c (events.flatMap Event.attributes) freeTier.toNat +
      exactTypeCosts g.c g.c.customEventCost.toNat (events.map Event.type))) := by
  -- the sum so far and the rest of the free tier are carried through the induction
  induction events generalizing gas freeTier with
  | nil => simp [WasmGasRegister.customEventCosts, exactAttributeCosts, exactTypeCosts]
  | cons e rest ih =>
      rw [List.flatMap_cons, attributeBytes_append] at hbytes
      rw [List.flatMap_cons, exactAttributeCosts_append, List.map_cons, exactTypeCosts,
        List.map_cons, List.sum_cons, ← exactTypeCosts] at hcost ⊢
      obtain ⟨left, hleft, hattr⟩ := eventAttributeCosts_exact g e.attributes freeTier (by omega)
        (by omega)
      have hsum : Wraps (gas + g.c.customEventCost + lenString e.type * g.c.eventAttributeDataCost +
          UInt64.ofNat (exactAttributeCosts g.c e.attributes freeTier.toNat))
          (gas.toNat + g.c.customEventCost.toNat +
            e.type.utf8ByteSize * g.c.eventAttributeDataCost.toNat +
            exactAttributeCosts g.c e.attributes freeTier.toNat) :=
        (((Wraps.toNat gas).add (.toNat _)).add ((Wraps.ofNat _).mul (.toNat _))).add (.ofNat _)
      rw [Nat.mul_comm e.type.utf8ByteSize] at hsum
      have hgas := hsum.exact (by omega)
      rw [WasmGasRegister.customEventCosts, hattr]
      rw [← hleft] at hcost ⊢
      have hrest := ih _ left (by omega) (by rw [hgas]; omega)
      refine hrest.trans (congrArg (fun n => Except.ok (UInt64.ofNat n)) ?_)
      rw [hgas]
      omega

/-- `EventCosts` is the closed form. -/
theorem eventCosts_exact (g : WasmGasRegister) (attrs : List Attribute) (events : List Event)
    (hbytes : attributeBytes (allAttributes attrs events) < 2 ^ 64)
    (hcost : exactEventCosts g.c attrs events < 2 ^ 64) :
    g.eventCosts attrs events = .ok (UInt64.ofNat (exactEventCosts g.c attrs events)) := by
  rw [allAttributes, attributeBytes_append] at hbytes
  rw [exactEventCosts, allAttributes, exactAttributeCosts_append] at hcost ⊢
  obtain ⟨left, hleft, hattr⟩ := eventAttributeCosts_exact g attrs
    g.c.eventAttributeDataFreeTier (by omega) (by omega)
  have hgas := (Wraps.ofNat (exactAttributeCosts g.c attrs
    g.c.eventAttributeDataFreeTier.toNat)).exact (by omega)
  rw [← hleft] at hcost ⊢
  rw [WasmGasRegister.eventCosts, hattr]
  have hloop := customEventCosts_exact g events
    (UInt64.ofNat (exactAttributeCosts g.c attrs g.c.eventAttributeDataFreeTier.toNat))
      left (by omega)
    (by rw [hgas]; omega)
  rw [hgas] at hloop
  exact hloop

/-! ## Replies -/

theorem setupContractCost_total (g : WasmGasRegister) (discount : Bool) (n : ℕ) :
    ∃ setup, g.setupContractCost discount n = .ok setup := by
  have hneg : ¬ (n : ℤ) < 0 := by omega
  rw [WasmGasRegister.setupContractCost, if_neg hneg]
  cases discount with
  | true => exact ⟨_, rfl⟩
  | false => exact ⟨_, rfl⟩

/-- `ReplyCosts` is the closed form. -/
theorem replyCosts_exact {discount : Bool} {reply : Reply} {setup : UInt64}
    (hsetup : g.setupContractCost discount reply.size = .ok setup)
    (hbytes : attributeBytes (reply.events.flatMap Event.attributes) < 2 ^ 64)
    (hcost : setup.toNat + replyEventCosts g.c reply < 2 ^ 64) :
    g.replyCosts discount reply = .ok (UInt64.ofNat (setup.toNat + replyEventCosts g.c reply)) := by
  cases hok : reply.result.ok with
  | none =>
      have hsize : reply.size = reply.result.err.utf8ByteSize := by simp [Reply.size, hok]
      have hnone : replyEventCosts g.c reply = 0 := by
        simp [replyEventCosts, Reply.events, hok, exactTypeCosts, exactAttributeCosts]
      rw [hsize] at hsetup
      simp only [WasmGasRegister.replyCosts, hok, hsetup, hnone]
      simp [bind, Except.bind]
  | some ok =>
      have hevents : reply.events = ok.events := by simp [Reply.events, hok]
      have hsize : (reply.size : ℤ) =
          (reply.result.err.utf8ByteSize : ℤ) + ((ok.data.getD []).length : ℤ) := by
        simp [Reply.size, hok]
      rw [hsize] at hsetup
      rw [hevents] at hbytes
      rw [replyEventCosts, hevents] at hcost ⊢
      have hattrs : exactEventCosts g.c (ok.events.flatMap Event.attributes) [] =
          exactAttributeCosts g.c (ok.events.flatMap Event.attributes)
            g.c.eventAttributeDataFreeTier.toNat := by
        simp [exactEventCosts, allAttributes, exactTypeCosts]
      have hgas := eventCosts_exact g (ok.events.flatMap Event.attributes) []
        (by simpa [allAttributes] using hbytes) (by omega)
      rw [hattrs] at hgas
      have htypes : Wraps (ok.events.foldl
          (fun gas e => gas + lenString e.type * g.c.eventAttributeDataCost) 0)
          (exactTypeCosts g.c 0 (ok.events.map Event.type)) := by
        have hfold := Wraps.foldl (x := 0) (n := 0)
          (f := fun e : Event => lenString e.type * g.c.eventAttributeDataCost)
          (g := fun e : Event => 0 + g.c.eventAttributeDataCost.toNat * e.type.utf8ByteSize)
          (fun e => by
            rw [Nat.zero_add, Nat.mul_comm]
            exact (Wraps.ofNat _).mul (.toNat _)) ok.events (Wraps.toNat 0)
        rw [Nat.zero_add] at hfold
        rw [exactTypeCosts, List.map_map]
        exact hfold
      have hsum := ((htypes.add (.ofNat (exactAttributeCosts g.c
        (ok.events.flatMap Event.attributes) g.c.eventAttributeDataFreeTier.toNat))).add
        (Wraps.toNat setup)).exact (by omega)
      simp only [WasmGasRegister.replyCosts, hok, hgas, hsetup]
      refine congrArg Except.ok (UInt64.toNat_inj.mp ?_)
      rw [hsum, (Wraps.ofNat _).exact hcost]
      omega

end Costs

/-! ## The closed form -/

theorem exactAttributeCosts_perm (c : WasmGasRegisterConfig) {l l' : List Attribute} (h : l.Perm l')
    (freeTier : ℕ) : exactAttributeCosts c l freeTier = exactAttributeCosts c l' freeTier := by
  rw [exactAttributeCosts, exactAttributeCosts, h.length_eq, attributeBytes, attributeBytes,
    (h.map _).sum_eq]

theorem exactTypeCosts_perm (c : WasmGasRegisterConfig) (perEvent : ℕ) {l l' : List String}
    (h : l.Perm l') : exactTypeCosts c perEvent l = exactTypeCosts c perEvent l' := by
  rw [exactTypeCosts, exactTypeCosts, (h.map _).sum_eq]

/-- Two calls of `EventCosts` with the same attributes and types, in any order and distribution. -/
theorem eventCosts_perm {g : WasmGasRegister} {attrs attrs' : List Attribute}
    {events events' : List Event}
    (hattrs : (allAttributes attrs events).Perm (allAttributes attrs' events'))
    (htypes : (events.map Event.type).Perm (events'.map Event.type))
    (hbytes : attributeBytes (allAttributes attrs events) < 2 ^ 64)
    (hcost : exactEventCosts g.c attrs events < 2 ^ 64) :
    g.eventCosts attrs events = g.eventCosts attrs' events' := by
  have hsame : exactEventCosts g.c attrs events = exactEventCosts g.c attrs' events' := by
    rw [exactEventCosts, exactEventCosts, exactAttributeCosts_perm _ hattrs,
      exactTypeCosts_perm _ _ htypes]
  have hbytes' : attributeBytes (allAttributes attrs' events') < 2 ^ 64 := by
    rw [attributeBytes, (hattrs.symm.map _).sum_eq]
    exact hbytes
  rw [eventCosts_exact g _ _ hbytes hcost, hsame, eventCosts_exact g _ _ hbytes' (hsame ▸ hcost)]

/-- **The costs of events and replies in closed form**, for less than `2 ^ 64` bytes of
attributes. -/
theorem event_costs_closed_form (g : WasmGasRegister) :
    (∀ attrs events, attributeBytes (allAttributes attrs events) < 2 ^ 64 →
      exactEventCosts g.c attrs events < 2 ^ 64 →
      g.eventCosts attrs events = .ok (UInt64.ofNat (exactEventCosts g.c attrs events)) ∧
      ∀ attrs' events', (allAttributes attrs events).Perm (allAttributes attrs' events') →
        (events.map Event.type).Perm (events'.map Event.type) →
        g.eventCosts attrs' events' = g.eventCosts attrs events) ∧
    ∀ discount (reply : Reply), ∃ setup, g.setupContractCost discount reply.size = .ok setup ∧
      (attributeBytes (reply.events.flatMap Event.attributes) < 2 ^ 64 →
        setup.toNat + replyEventCosts g.c reply < 2 ^ 64 →
        g.replyCosts discount reply =
          .ok (UInt64.ofNat (setup.toNat + replyEventCosts g.c reply))) := by
  refine ⟨fun attrs events hbytes hcost => ⟨eventCosts_exact g _ _ hbytes hcost,
    fun attrs' events' hattrs htypes => (eventCosts_perm hattrs htypes hbytes hcost).symm⟩,
    fun discount reply => ?_⟩
  obtain ⟨setup, hsetup⟩ := setupContractCost_total g discount reply.size
  exact ⟨setup, hsetup, replyCosts_exact hsetup⟩

/-- The default costs of an attribute and an event, and of a reply with that event. -/
theorem event_costs_closed_form_default :
    newDefaultWasmGasRegister.eventCosts [⟨"a", "b"⟩] [⟨"type", [⟨"c", "d"⟩]⟩] = .ok 44 ∧
      newDefaultWasmGasRegister.replyCosts true
        ⟨1, ⟨some ⟨[⟨"type", [⟨"c", "d"⟩]⟩], some [1], []⟩, ""⟩, []⟩ = .ok 2014 := by
  obtain ⟨hevents, hreply⟩ := event_costs_closed_form newDefaultWasmGasRegister
  refine ⟨?_, ?_⟩
  · rw [(hevents [⟨"a", "b"⟩] [⟨"type", [⟨"c", "d"⟩]⟩] (by decide) (by decide)).1]
    rfl
  · obtain ⟨setup, hsetup, hcost⟩ := hreply true
      ⟨1, ⟨some ⟨[⟨"type", [⟨"c", "d"⟩]⟩], some [1], []⟩, ""⟩, []⟩
    cases hsetup
    exact hcost (by decide) (by decide)

/-! ### Attributes of `2 ^ 64` bytes -/

/-- Half of the words are free, and each further byte costs one. -/
def halfFreeRegister : WasmGasRegister :=
  ⟨{ defaultGasRegisterConfig with
      eventPerAttributeCost := 0
      eventAttributeDataCost := 1
      eventAttributeDataFreeTier := 0x8000000000000000 }, by decide⟩

/-- Four attributes with one key. -/
def fourAttributes (key : String) : List Attribute := List.replicate 4 ⟨key, ""⟩

theorem attributeBytes_four {key : String} (hkey : key.utf8ByteSize = 2 ^ 62) :
    attributeBytes (fourAttributes key) = 2 ^ 64 := by
  simp [attributeBytes, fourAttributes, hkey]

theorem exists_utf8ByteSize (n : ℕ) : ∃ key : String, key.utf8ByteSize = n := by
  induction n with
  | zero => exact ⟨"", rfl⟩
  | succ n ih =>
      obtain ⟨key, hkey⟩ := ih
      exact ⟨key ++ "a", by rw [String.utf8ByteSize_append, hkey]; rfl⟩

/-- **Attributes of `2 ^ 64` bytes cost nothing**, as the count of bytes wraps around, though half
of them are beyond the free tier. -/
theorem event_costs_wrap : ∃ key : String, key.utf8ByteSize = 2 ^ 62 ∧
    exactEventCosts halfFreeRegister.c (fourAttributes key) [] = 2 ^ 63 ∧
    halfFreeRegister.eventCosts (fourAttributes key) [] = .ok 0 := by
  obtain ⟨key, hkey⟩ := exists_utf8ByteSize (2 ^ 62)
  have hbytes := attributeBytes_four hkey
  refine ⟨key, hkey, ?_, ?_⟩
  · have hcost : exactEventCosts halfFreeRegister.c (fourAttributes key) [] =
        0 * 4 + 1 * (attributeBytes (fourAttributes key) - 0x8000000000000000) + 0 := by
      rw [exactEventCosts, allAttributes, List.flatMap_nil, List.append_nil]
      rfl
    rw [hcost, hbytes]
    norm_num
  · have hzero : (fourAttributes key).foldl
        (fun n l => n + (lenString l.key + lenString l.value)) (0 : UInt64) = 0 := by
      refine UInt64.toNat_inj.mp ((storedBytes_wraps (fourAttributes key)).trans ?_)
      rw [hbytes]
      rfl
    have hne : fourAttributes key ≠ [] := nofun
    simp only [WasmGasRegister.eventCosts, WasmGasRegister.eventAttributeCosts, if_neg hne, hzero]
    rfl

end Wasmd
