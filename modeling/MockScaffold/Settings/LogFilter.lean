import MockScaffold.Log.Directive
import MockScaffold.Settings.Basic
import MockScaffold.Text.Affix

namespace MockScaffold

namespace LogDirective

/-- How specific a directive is: the length of its target, a span's name, a field. -/
def weight (d : LogDirective) : List Nat :=
  [(d.target.map (·.utf8ByteSize + 1)).getD 0, d.span.toList.length, d.field.toList.length]

def key (d : LogDirective) : List String :=
  [d.target.getD "", d.span.getD "", (d.field.map (·.name)).getD ""]

/-- The more specific directive comes first; of two alike the one that is later in the alphabet. -/
def precedes (a b : LogDirective) : Bool :=
  b.weight < a.weight || (a.weight == b.weight && b.key < a.key)

/-- Puts a directive in its place, instead of one that differs in its level only. -/
def insert (d : LogDirective) : List LogDirective → List LogDirective
  | [] => [d]
  | e :: rest =>
    if { e with level := d.level } = d then d :: rest
    else if d.precedes e then d :: e :: rest
    else e :: insert d rest

def sorted (ds : List LogDirective) : List LogDirective :=
  ds.foldl (fun sorted d => insert d sorted) []

def allows (d : LogDirective) (event : LogEvent) : Bool :=
  event.level.rank ≤ d.level.rank

/-- A target is meant by all that it begins with. -/
def meansTarget (d : LogDirective) (target : String) : Bool :=
  d.target.all (Text.startsWith target)

def meansEvent (d : LogDirective) (event : LogEvent) : Bool :=
  d.meansTarget event.target && d.field.all (event.hasField ·.name)

def meansSpan (d : LogDirective) (span : LogSpan) : Bool :=
  d.meansTarget span.target && d.span.all (· == span.name) &&
    d.field.all fun field =>
      span.fields.any fun (name, value) => name == field.name && field.accepts value

end LogDirective

structure LogFilter where
  forEvents : List LogDirective
  forSpans : List LogDirective
  deriving DecidableEq, Repr

namespace LogFilter

/-- Without any directive, errors are logged. -/
def ofDirectives (ds : List LogDirective) : LogFilter :=
  let ds := if ds.isEmpty then [{ level := .error }] else ds
  let forSpans := ds.filter (·.concernsSpans)
  let forEvents := ds.filter (!·.concernsSpans) ++ forSpans.filter (·.concernsEvents)
  { forEvents := LogDirective.sorted forEvents, forSpans := LogDirective.sorted forSpans }

def ofText? (text : List Char) : Option LogFilter :=
  (LogDirective.listOfText? text).map ofDirectives

def text (filter : LogFilter) : String :=
  ",".intercalate ((filter.forEvents ++ filter.forSpans).map (·.text))

def passesByItself (filter : LogFilter) (event : LogEvent) : Bool :=
  (filter.forEvents.find? (·.meansEvent event)).any (·.allows event)

def passesInSpan (filter : LogFilter) (event : LogEvent) : Bool :=
  event.span.any fun span => filter.forSpans.any fun d => d.meansSpan span && d.allows event

def passes (filter : LogFilter) (event : LogEvent) : Bool :=
  filter.passesByItself event || filter.passesInSpan event

end LogFilter

end MockScaffold

namespace MockScaffold.LogSettings

def variableName : String := "RUST_LOG"

/-- A blank level is `warn`; `warning` and `none` are other names of levels. -/
def directives (log : LogSettings) : List Char :=
  let trimmed := Text.trim log.level.toList
  let small := trimmed.map Char.toLower
  if trimmed.isEmpty || small == "warning".toList then "warn".toList
  else if small == "none".toList then "off".toList
  else if LogLevel.all.any (·.name.toList == small) then small
  else trimmed

def ownFilter (log : LogSettings) : LogFilter :=
  (LogFilter.ofText? log.directives).getD (.ofDirectives [{ level := .warn }])

def filter (log : LogSettings) (environment : Option String) : LogFilter :=
  let extra := (environment.map fun text => Text.trim text.toList).getD []
  if extra.isEmpty then log.ownFilter
  else
    ((LogFilter.ofText? (log.directives ++ ',' :: extra)).or (LogFilter.ofText? extra)).getD
      log.ownFilter

def filterText (log : LogSettings) (environment : Option String) : String :=
  (log.filter environment).text

/-- The events that are written, which are none if the log is not wanted. -/
def shown (log : LogSettings) (environment : Option String) (events : List LogEvent) :
    List LogEvent :=
  if log.stderr then events.filter (log.filter environment).passes else []

end MockScaffold.LogSettings
