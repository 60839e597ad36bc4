import Mathlib.Logic.Relation

/-!
# Property that only its owner touches

Actors take turns.  In each turn an actor may make new objects, and change the objects that it owns
at that time.

* `Touches` — what one turn does to the objects of a state.
* `Turns` — any number of turns, each by an actor that may act in the state at hand.
* `Turns.kept` — **an object whose owner never acts stays as it is**, and so does one without an
  owner.
-/

namespace Ownership

variable {State Actor Object Item : Type}

/-- What a turn of `a` does to the objects: what is there stays, or was the actor's. -/
def Touches (owner : Item → Option Actor) (a : Actor) (items items' : Object → Option Item) :
    Prop :=
  ∀ o item, items o = some item → items' o = some item ∨ owner item = some a

/-- Any number of turns. -/
def Turns (may : State → Actor → Prop) (turn : Actor → State → State → Prop) :
    State → State → Prop :=
  Relation.ReflTransGen fun s s' => ∃ a, may s a ∧ turn a s s'

namespace Turns

variable {may : State → Actor → Prop} {turn : Actor → State → State → Prop} {s s' : State}

theorem refl : Turns may turn s s := Relation.ReflTransGen.refl

theorem single {a : Actor} (ha : may s a) (h : turn a s s') : Turns may turn s s' :=
  Relation.ReflTransGen.single ⟨a, ha, h⟩

theorem trans {t : State} (h : Turns may turn s t) (h' : Turns may turn t s') :
    Turns may turn s s' :=
  Relation.ReflTransGen.trans h h'

/-- What every turn keeps is kept. -/
theorem invariant {P : State → Prop} (hturn : ∀ a t t', turn a t t' → P t → P t')
    (h : Turns may turn s s') (hs : P s) : P s' := by
  induction h with
  | refl => exact hs
  | tail _ hstep ih =>
      obtain ⟨a, -, ht⟩ := hstep
      exact hturn a _ _ ht ih

/-- **An object whose owner never acts stays as it is.**  The turns need respect owners only in
states where `P` holds and that are not `bad`; once bad, a state stays so. -/
theorem kept (items : State → Object → Option Item) {owner : Item → Option Actor}
    (P bad : State → Prop) (hbad : ∀ a t t', turn a t t' → bad t → bad t')
    (hP : ∀ a t t', turn a t t' → P t → ¬ bad t → P t')
    (htouches : ∀ a t t', turn a t t' → P t → ¬ bad t → Touches owner a (items t) (items t'))
    (h : Turns may turn s s') (hs : P s) (hgood : ¬ bad s') {o : Object} {item : Item}
    (hitem : items s o = some item)
    (habsent : ∀ t, Turns may turn s t → ∀ a, may t a → owner item ≠ some a) :
    items s' o = some item := by
  -- the property `P` holds along the way, since no state before the last is bad
  suffices hboth : P s' ∧ items s' o = some item from hboth.2
  induction h with
  | refl => exact ⟨hs, hitem⟩
  | @tail t t' hbefore hstep ih =>
      obtain ⟨a, ha, hturn⟩ := hstep
      have hgood' : ¬ bad t := fun hb => hgood (hbad a t t' hturn hb)
      obtain ⟨hPt, hkept⟩ := ih hgood'
      refine ⟨hP a t t' hturn hPt hgood', ?_⟩
      rcases htouches a t t' hturn hPt hgood' o item hkept with hsame | howner
      · exact hsame
      · exact absurd howner (habsent t hbefore a ha)

end Turns

end Ownership
