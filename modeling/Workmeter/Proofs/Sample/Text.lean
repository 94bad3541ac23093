/-
  Workmeter — the text of a sample.

  A sample is written as a record without blanks: its id, the counters of its control
  group, the usage of the host and its interfaces, in this order.  Numbers are decimal, and
  what is absent is `null`.

  * `WorkloadStats.text`, `Interface.Written`, `Sample.Written`: the text of each part, and
    of a sample, with its field names;
  * `Sample.written_iff`: this is the line of the sample.
-/
import Workmeter.Proofs.Text.Json
import Workmeter.Sample.Json

namespace Workmeter

open Json

/-- A counter in decimal. -/
def counterText (n : UInt64) : String := toString n.toNat

/-- What may be absent. -/
def optionText {α : Type} (text : α → String) : Option α → String
  | none => "null"
  | some a => text a

def CpuStat.text (s : CpuStat) : String :=
  recordText [("usage_usec", counterText s.usageUsec), ("user_usec", counterText s.userUsec),
    ("system_usec", counterText s.systemUsec), ("nr_periods", counterText s.periods),
    ("nr_throttled", counterText s.throttledPeriods),
    ("throttled_usec", counterText s.throttledUsec)]

def MemoryUsage.text (m : MemoryUsage) : String :=
  recordText [("usage_bytes", counterText m.bytes)]

def MemoryLimit.text (m : MemoryLimit) : String :=
  recordText [("limit_bytes", optionText counterText m.bytes)]

def WorkloadStats.text (s : WorkloadStats) : String :=
  recordText [("cpu_stat", optionText CpuStat.text s.cpu),
    ("memory_usage", optionText MemoryUsage.text s.memory),
    ("memory_limit", optionText MemoryLimit.text s.limit)]

/-- The text is that of the interface. -/
def Interface.Written (i : Interface) (text : String) : Prop :=
  ∃ name, Quoted i.name name ∧ text = recordText [("name", name),
    ("rx_bytes", counterText i.received.bytes), ("rx_packets", counterText i.received.packets),
    ("rx_errors", counterText i.received.errors), ("rx_dropped", counterText i.received.dropped),
    ("tx_bytes", counterText i.sent.bytes), ("tx_packets", counterText i.sent.packets),
    ("tx_errors", counterText i.sent.errors), ("tx_dropped", counterText i.sent.dropped)]

/-- The line is that of the sample. -/
def Sample.Written (s : Sample) (line : String) : Prop :=
  ∃ id interfaces, Quoted s.workload.name id ∧
    List.Forall₂ Interface.Written s.interfaces interfaces ∧
    line = recordText [("workload_id", id), ("stats", s.stats.text),
      ("system_usage", counterText s.hostUsage), ("interfaces", listText interfaces)]

/-! ## What is written -/

theorem compact_counterJson (n : UInt64) : (counterJson n).compact = counterText n := rfl

theorem compact_optionJson {α : Type} {json : α → Json} {text : α → String}
    (h : ∀ a, (json a).compact = text a) (a : Option α) :
    (optionJson json a).compact = optionText text a := by
  cases a with
  | none => rfl
  | some a => exact h a

theorem CpuStat.compact_json (s : CpuStat) : s.json.compact = s.text := by
  rw [json, compact_record (by simp [isPlain, quote, escape]), text]
  rfl

theorem MemoryUsage.compact_json (m : MemoryUsage) : m.json.compact = m.text := by
  rw [json, compact_record (by simp [isPlain, quote, escape]), text]
  rfl

theorem MemoryLimit.compact_json (m : MemoryLimit) : m.json.compact = m.text := by
  rw [json, compact_record (by simp [isPlain, quote, escape]), text]
  simp only [List.map_cons, List.map_nil, compact_optionJson compact_counterJson]

theorem WorkloadStats.compact_json (s : WorkloadStats) : s.json.compact = s.text := by
  rw [json, compact_record (by simp [isPlain, quote, escape]), text]
  simp only [List.map_cons, List.map_nil, compact_optionJson CpuStat.compact_json,
    compact_optionJson MemoryUsage.compact_json, compact_optionJson MemoryLimit.compact_json]

theorem Interface.written_iff {i : Interface} {text : String} :
    i.Written text ↔ text = i.json.compact := by
  rw [Written, json, compact_record (by simp [isPlain, quote, escape])]
  simp only [quoted_iff, exists_eq_left, List.map_cons, List.map_nil, compact_counterJson]

theorem Interface.forall₂_written_iff {interfaces : List Interface} {texts : List String} :
    List.Forall₂ Interface.Written interfaces texts ↔
      texts = interfaces.map fun i => i.json.compact := by
  have hwritten : Written = fun i text => i.json.compact = text :=
    funext₂ fun i text => propext (written_iff.trans eq_comm)
  rw [eq_comm, ← List.forall₂_eq_eq_eq, List.forall₂_map_left_iff, hwritten]

/-- **The line of a sample** is its text. -/
theorem Sample.written_iff {s : Sample} {line : String} : s.Written line ↔ line = s.line := by
  rw [Written, Sample.line, json, compact_record (by simp [isPlain, quote, escape])]
  simp only [quoted_iff, Interface.forall₂_written_iff, List.map_cons, List.map_nil, List.map_map,
    compact_counterJson, compact_list, WorkloadStats.compact_json, WorkloadId.json]
  constructor
  · rintro ⟨_, _, rfl, rfl, rfl⟩
    rfl
  · rintro rfl
    exact ⟨_, _, rfl, rfl, rfl⟩

end Workmeter
