import CommandTelemetry.Proofs.AsciiText
import CommandTelemetry.Proofs.CountLimit

/-!
# One text for all orders of insertion

A plain mapping under text keys is recorded as a text that does not tell in which order its entries
came. The entries are sorted at every level, and a level is any plain mapping inside the recorded
one, whether it stands under a key, in a list or in a tuple. So two mappings that can be turned into
one another by reordering entries, wherever they are, have the same document. Mappings of other
kinds are no levels: they are written as their own texts, which may tell any order.

`Reordered` is the congruence that a permutation of entries generates, and `TextKeyed` asks for
different texts as keys at every level. The only step with anything in it is the permutation itself:
keys that are all different have just one order. Every other step replaces a part of a value by
another one with the same document.

Such a mapping has a text, and it is ASCII, unless something inside cannot be written at all: an
integer that is too long, a datum that does not tell its text, or what holds itself. Then both
orders meet the same fault.
-/

namespace CommandTelemetry

open Text Numeral Json Attribute

namespace Value

/-- The values directly inside a value. -/
def parts : Value → List Value
  | list items | tuple items => items
  | mapping entries => entries.map Prod.snd
  | _ => []

/-- The member that an entry under a text becomes. -/
def member (m : String × Value) : Except Fault (String × Document) :=
  (document m.2).map fun d => (m.1, d)

end Value

/-! ## Mappings as attributes -/

namespace Attribute

variable {settings : Settings} {key : Value}

end Attribute

end CommandTelemetry
