/-
# The two kinds of line on a service's output

`emit_event` writes an event as the bare schema JSON, everything else goes
through `JsonFormatter`. Both are one line of JSON.
-/

import SentinelIR.Common.Events
import SentinelIR.Py.Dict
import SentinelIR.Py.JsonText

namespace SentinelIR.Common

open SentinelIR.Py

/-! ## Event lines -/

theorem length_decimal_le {n : Nat} (small : n < 1000) : (decimal n).length ≤ 3 := by
  rw [decimal_eq n, List.length_append, List.length_singleton]
  split
  case isTrue => exact Nat.le_add_left 1 2
  case isFalse =>
      rw [decimal_eq (n / 10), List.length_append, List.length_singleton]
      split
      case isTrue => exact Nat.le_succ 2
      case isFalse =>
          rw [decimal_eq (n / 10 / 10), if_pos (by omega)]
          exact Nat.le_refl 3

/-- A status has three digits, which Python writes. -/
theorem EventFields.Valid.written {f : EventFields} (valid : f.Valid) :
    (decimal f.statusCode.natAbs).length ≤ 4300 := by
  have range := valid.status
  have short := length_decimal_le (n := f.statusCode.natAbs) (by omega)
  omega

/-- An optional text. -/
def optionalValue : Option Str → Value
  | none => .null
  | some text => .str text

/-- `to_json_dict`: the published keys, in schema order. -/
def SecurityEvent.toJsonDict (event : SecurityEvent) : List (Str × Value) :=
  [("eventId", .str event.eventId), ("timestamp", .str event.timestamp),
    ("serviceName", .str event.serviceName.value), ("eventType", .str event.eventType.value),
    ("severity", .str event.severity.value), ("userId", optionalValue event.userId),
    ("sourceIp", optionalValue event.sourceIp), ("endpoint", .str event.endpoint),
    ("httpMethod", .str event.httpMethod),
    ("statusCode", .int event.statusCode event.valid.written), ("message", .str event.message),
    ("correlationId", .str event.correlationId),
    ("affectedEntity", optionalValue event.affectedEntity)]

/-- `EventFormatter.format` on what `emit_event` hands it. -/
def SecurityEvent.line (event : SecurityEvent) : Str := (Value.dict event.toJsonDict).dumps

/-! ## Application lines -/

/-- `_STANDARD_RECORD_ATTRIBUTES`. -/
def standardRecordAttributes : List Str :=
  ["args", "asctime", "created", "exc_info", "exc_text", "filename", "funcName", "levelname",
    "levelno", "lineno", "module", "msecs", "message", "msg", "name", "pathname", "process",
    "processName", "relativeCreated", "stack_info", "thread", "threadName", "taskName"]

/-- The part of a log record `JsonFormatter` renders: its time, level, logger and
message as text, its other attributes, and its exception, if it carries one. -/
structure LogRecord where
  timestamp : Str
  levelname : Str
  name : Str
  message : Str
  attributes : List (Str × Value)
  exception : Option Str

namespace LogRecord

/-- The attributes the formatter merges into the line: the caller's `extra`. -/
def extras (record : LogRecord) : List (Str × Value) :=
  record.attributes.filter fun item =>
    item.1 ∉ standardRecordAttributes ∧ item.1.head? ≠ some (codePoint '_')

/-- The payload, in the order its keys are set. -/
def payload (record : LogRecord) (serviceName correlationId : Str) : Dict Str Value :=
  let fixed : List (Str × Value) :=
    [("timestamp", .str record.timestamp), ("level", .str record.levelname),
      ("serviceName", .str serviceName), ("logger", .str record.name),
      ("message", .str record.message), ("correlationId", .str correlationId)]
  let raised : List (Str × Value) := record.exception.toList.map fun text => ("exception", .str text)
  (fixed ++ record.extras ++ raised).foldl (fun d item => d.set item.1 item.2) Dict.empty

/-- `JsonFormatter.format`. -/
def line (record : LogRecord) (serviceName correlationId : Str) : Str :=
  (Value.dict (record.payload serviceName correlationId).entries).dumps

/-- The formatter's own keys leave the event marker out, so only an extra can
bring it in. -/
theorem marker_mem_keys {record : LogRecord} {serviceName correlationId : Str}
    (marked : lit "eventType" ∈ (record.payload serviceName correlationId).keys) :
    lit "eventType" ∈ record.extras.map Prod.fst := by
  have absent : lit "eventType" ∉ ([lit "timestamp", lit "level", lit "serviceName", lit "logger",
      lit "message", lit "correlationId"] : List Str) := by decide
  have other : lit "eventType" ≠ lit "exception" := by decide
  rw [payload, Dict.keys_foldl_set, mem_foldl_appendNew, List.map_append, List.map_append,
    List.mem_append, List.mem_append] at marked
  rcases marked with held | ((fixed | extra) | raised)
  · cases held
  · exact absurd fixed absent
  · exact extra
  · obtain ⟨item, hitem, key⟩ := List.mem_map.mp raised
    obtain ⟨text, -, rfl⟩ := List.mem_map.mp hitem
    exact absurd key.symm other

end LogRecord

end SentinelIR.Common
