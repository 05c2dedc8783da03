import KeywordTable.Log.Directive
import KeywordTable.Text.Basic

/-!
# Choosing Events

Which events the log shows. A filter is written as directives with commas
between them, of which empty ones do not count. Of the directives that speak of
an event the one for the longest target decides, so a directive without a target
comes last. An event that no directive speaks of is not shown. A text in which
one directive is no directive is no filter.

Of two directives for the same events the later holds.

## Main definitions

* `Filter`: The directives of a log.
* `Filter.parse?`: The filter that a text writes.
* `Filter.allows`: The log shows the event.
-/

namespace KeywordTable

namespace Log

/-- The directives of a log. -/
structure Filter where
  directives : List Directive
  deriving Repr, DecidableEq

namespace Filter

/-- The filter that shows every event. -/
def all : Filter := ⟨[{ limit := Level.trace.rank }]⟩

/-- The filter that a log has if nothing else is said. -/
def initial : Filter := ⟨[{ limit := Level.info.rank }]⟩

/-- The filter that a text writes. -/
def parse? (text : String) : Option Filter :=
  (((Text.split ',' text.toList).filter (· != [])).mapM Directive.parse?).map Filter.mk

/-- The log shows the event. -/
def allows (filter : Filter) (event : Event) : Bool :=
  match (filter.directives.filter (·.covers event)).foldl Directive.prefer none with
  | none => false
  | some d => event.level.rank ≤ d.limit

end Filter

end Log

end KeywordTable
