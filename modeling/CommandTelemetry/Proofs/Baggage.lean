import CommandTelemetry.Proofs.AttributeWrites
import CommandTelemetry.Session.Basic

/-!
# Baggage

Entries are put into baggage one after the other, each by the texts of its key and of its value, and
every step yields a context of its own. So keys that differ may meet in one text, and then the later
entry counts, as it does for a key that is there already.

An entry may have a key or a value without a text. Then the first such text is what setting the
entries fails with, and no context comes of it.

Seen from outside, entries of any number are laid over the baggage of the context in a single step,
and laying some over it and then others is laying all of them over it. Nothing else in the context
takes part in this. Nor does the session: the context that the entries are put into, the current one
among them, is the same for whoever looks at it afterwards.
-/

namespace CommandTelemetry

open Attribute

/-- The new attributes are the old ones with writes laid over them: under each key the last write
counts, or else what was there. Old keys keep their places, and the others follow in the order in
which they first come up. -/
structure Overlaid (old writes new : Attributes) : Prop where
  lookup : ∀ k, new.lookup k = (writes.reverse.lookup k).or (old.lookup k)
  keys : new.map Prod.fst =
    old.map Prod.fst ++ ((writes.map Prod.fst).filter (· ∉ old.map Prod.fst)).eraseDups

theorem overlaid_putAll (attrs writes : Attributes) : Overlaid attrs writes (putAll attrs writes) :=
  ⟨lookup_putAll attrs writes, keys_putAll attrs writes⟩

/-! ## Entries in a context -/

namespace Trace.Context

/-- Texts in the form in which spans are given them. -/
def asAttributes (entries : List (String × String)) : Attributes :=
  entries.map fun e => (e.1, .text e.2)

theorem baggageAttributes_withBaggage (c : Context) (entries : List (String × String)) :
    (c.withBaggage entries).baggageAttributes =
      putAll c.baggageAttributes (asAttributes entries) := by
  induction entries generalizing c with
  | nil => rfl
  | cons e rest ih =>
      have hfirst : c.withBaggage (e :: rest) = (c.withBaggage [e]).withBaggage rest := rfl
      have hput : (c.withBaggage [e]).baggageAttributes =
          put c.baggageAttributes e.1 (.text e.2) := map_put Value.text c.baggage e.1 e.2
      rw [hfirst, ih, hput]
      rfl

theorem withBaggage_withBaggage (c : Context) (first second : List (String × String)) :
    (c.withBaggage first).withBaggage second = c.withBaggage (first ++ second) := by
  simp only [withBaggage, List.foldl_append]

/-- The texts of entries that follow others are worked out only where the others have theirs. -/
theorem texts_append (first second : List (Value × Value)) :
    texts (first ++ second) = do
      let a ← texts first
      let b ← texts second
      return a ++ b := by
  induction first with
  | nil => cases h : texts second <;> simp only [List.nil_append, h] <;> rfl
  | cons e rest ih =>
      rw [List.cons_append, texts, texts, ih]
      cases e.1.display with
      | error fault => rfl
      | ok name =>
          cases e.2.display with
          | error fault => rfl
          | ok s =>
              cases texts rest with
              | error fault => rfl
              | ok others => cases texts second <;> rfl

/-- A number and a text meet in one key, which is there already and keeps its place. -/
example :
    let entries := [(.int 1, .bool true), (.text "run", .int 7), (.text "1", .list [.text "a"])]
    let ctx : Context := { baggage := [("1", ""), ("region", "eu")] }
    (texts entries).map (fun written => (ctx.withBaggage written).baggageAttributes) =
      .ok [("1", .text "['a']"), ("region", .text "eu"), ("run", .text "7")] :=
  rfl

end Trace.Context

/-! ## Entries in a session -/

namespace Session

open Trace Context

variable {ε : Type}

theorem setBaggage_of_ok (s : Session ε) (ctx : Option Context) {entries : List (Value × Value)}
    {written : List (String × String)} (h : texts entries = .ok written) :
    setBaggage ctx entries s = .ok ((s.contextOr ctx).withBaggage written) s := by
  unfold setBaggage
  rw [h]
  rfl

theorem setBaggage_of_error (s : Session ε) (ctx : Option Context)
    {entries : List (Value × Value)} {fault : Fault} (h : texts entries = .error fault) :
    setBaggage ctx entries s = .error (Failure.ofFault fault) s := by
  unfold setBaggage
  rw [h]
  rfl

theorem setBaggage_setBaggage (s : Session ε) (ctx : Option Context)
    {first second : List (Value × Value)} {written : List (String × String)}
    (h : texts first = .ok written) :
    setBaggage (some ((s.contextOr ctx).withBaggage written)) second s =
      setBaggage ctx (first ++ second) s := by
  have happend := texts_append first second
  rw [h] at happend
  cases hsecond : texts second with
  | error fault =>
      rw [hsecond] at happend
      rw [setBaggage_of_error s _ hsecond, setBaggage_of_error s _ happend]
  | ok more =>
      rw [hsecond] at happend
      rw [setBaggage_of_ok s _ hsecond, setBaggage_of_ok s _ happend]
      exact congrArg (EStateM.Result.ok · s) (withBaggage_withBaggage ..)

/-- Setting baggage leaves the session as it is. It fails where a text cannot be had, and else it
yields a context that differs from the one it is set in by its baggage only, over which the entries
are laid. Setting more in that context is setting all at once. Where no context is named it is set
in the current one. -/
theorem setBaggage_overlays (s : Session ε) (ctx : Option Context)
    (first second : List (Value × Value)) :
    (match texts first with
      | .error fault => setBaggage ctx first s = .error (Failure.ofFault fault) s
      | .ok written => ∃ new : Context,
          setBaggage ctx first s = .ok new s ∧
          Overlaid (s.baggageOf ctx) (asAttributes written) (s.baggageOf (some new)) ∧
          { new with baggage := (s.contextOr ctx).baggage } = s.contextOr ctx ∧
          setBaggage (some new) second s = setBaggage ctx (first ++ second) s) ∧
      setBaggage none first s = setBaggage (some s.current) first s ∧
      s.baggageOf none = s.baggageOf (some s.current) := by
  have hcurrent : setBaggage none first s = setBaggage (some s.current) first s := by
    unfold setBaggage
    cases texts first <;> rfl
  refine ⟨?_, hcurrent, rfl⟩
  split
  · next fault h => exact setBaggage_of_error s ctx h
  · next written h =>
      refine ⟨_, setBaggage_of_ok s ctx h, ?_, rfl, setBaggage_setBaggage s ctx h⟩
      have hbaggage : s.baggageOf (some ((s.contextOr ctx).withBaggage written)) =
          putAll (s.baggageOf ctx) (asAttributes written) := baggageAttributes_withBaggage ..
      rw [hbaggage]
      exact overlaid_putAll ..

end Session

end CommandTelemetry
