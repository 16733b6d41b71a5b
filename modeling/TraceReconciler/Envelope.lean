import TraceReconciler.Configuration.Snapshot
import TraceReconciler.Text.Utf8

/-!
# The interface of texts

The library for callers that only exchange texts. Every argument and every answer is a JSON text; an
answer is an **envelope**, an object whose one member is `ok` with the result or `error` with a
message. A fault blames the first argument that cannot be read.

Texts come as octets that end before the first zero octet, and so an answer with a NUL in it could
not be handed over. There is none: envelopes escape control characters.
-/

namespace TraceReconciler.Envelope

open Json

/-- The version of the library. -/
def version : String := "0.1.0"

/-- The text of an argument: the octets before the first zero, if they are UTF-8. -/
def argumentText (octets : ByteArray) : Option String :=
  Text.ofUtf8? ⟨(octets.data.toList.takeWhile (· != 0)).toArray⟩

/-- **The value of an argument.** An argument that is not there, or is no text, is missing. -/
def argument {α : Type} (decode : Decoder α) (what : String) (invalid : String → EngineError)
    (text : Option String) : Except EngineError α :=
  match text with
  | none => .error (invalid ("missing " ++ what))
  | some s =>
    match decodeText decode s with
    | .ok v => .ok v
    | .error f => .error (invalid (what ++ ": " ++ f.message))

/-- The envelope of a result. -/
def wrap : Except EngineError Value → Value
  | .ok v => .object [("ok", v)]
  | .error e => .object [("error", .string e.message)]

/-- What is handed over in place of a text that holds a NUL. -/
def nulFallback : String := "\x7b\"error\":\"string contained null bytes\"\x7d"

/-- A text as it is handed over. -/
def handOver (text : String) : String := if text.toList.contains '\x00' then nulFallback else text

/-- An argument that is a configuration. -/
def configurationArgument (text : Option String) : Except EngineError Configuration :=
  argument Configuration.decode "configuration" .invalidSnapshot text

/-- The empty configuration. -/
def emptyConfiguration : String := handOver (wrap (.ok Configuration.empty.toJson)).text

/-- **A configuration after a change.** -/
def applyChange (configuration change : Option String) : String :=
  let result : Except EngineError Value := do
    let c ← configurationArgument configuration
    let x ← argument Change.decode "change" .invalidAction change
    .ok (c.apply x).toJson
  handOver (wrap result).text

/-- **Whether two configurations are equal.** -/
def configurationsEqual (a b : Option String) : String :=
  let result : Except EngineError Value := do
    let a ← configurationArgument a
    let b ← configurationArgument b
    .ok (.boolean (decide (a = b)))
  handOver (wrap result).text

/-- **The options of a configuration for some processes.** -/
def featureOptions (configuration pids : Option String) : String :=
  let result : Except EngineError Value := do
    let c ← configurationArgument configuration
    let ps ← argument (list word32) "pids" .invalidAction pids
    .ok (.array ((c.options ps).map FeatureOption.toJson))
  handOver (wrap result).text

end TraceReconciler.Envelope
