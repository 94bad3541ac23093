/-
  Workmeter — one line of text is one sample.

  What may be absent is told apart from everything that may be there, because no
  counter, no usage and no limit is `null`; so no part of a sample is lost when it
  is written, and since texts of values never run together, neither is a sample.

  * `optionJson_injective`, `counterJson_injective`: absence and counters;
  * `WorkloadStats.json_injective`, `Interface.json_injective`, `Sample.json_injective`:
    different samples are different values;
  * `Sample.page`: samples written one below the other;
  * `Sample.one_line_each`: a line holds no line break and no other control
    character, and lines and pages tell the samples they were written for.
-/
import Workmeter.Proofs.Text.Json
import Workmeter.Sample.Json

namespace Workmeter

theorem counterJson_injective : Function.Injective counterJson := by
  intro m n h
  exact UInt64.toNat_inj.1 (Json.number.inj h)

/-- A value that is never `null` may be absent. -/
theorem optionJson_injective {α : Type} {json : α → Json} (hjson : Function.Injective json)
    (hnull : ∀ a, json a ≠ .null) : Function.Injective (optionJson json) := by
  intro a b h
  cases a with
  | none =>
    cases b with
    | none => rfl
    | some b => exact absurd h.symm (hnull b)
  | some a =>
    cases b with
    | none => exact absurd h (hnull a)
    | some b => exact congrArg some (hjson h)

theorem CpuStat.json_injective : Function.Injective CpuStat.json := by
  rintro ⟨⟩ ⟨⟩ h
  simpa [CpuStat.json, counterJson_injective.eq_iff] using h

theorem MemoryUsage.json_injective : Function.Injective MemoryUsage.json := by
  rintro ⟨⟩ ⟨⟩ h
  simpa [MemoryUsage.json, counterJson_injective.eq_iff] using h

theorem MemoryLimit.json_injective : Function.Injective MemoryLimit.json := by
  have hbytes := optionJson_injective counterJson_injective fun n h => nomatch h
  rintro ⟨⟩ ⟨⟩ h
  simpa [MemoryLimit.json, hbytes.eq_iff] using h

/-- The three parts of the counters may each be absent: a limit without a number is
    none of them. -/
theorem WorkloadStats.json_injective : Function.Injective WorkloadStats.json := by
  have hcpu := optionJson_injective CpuStat.json_injective fun s h => nomatch h
  have hmemory := optionJson_injective MemoryUsage.json_injective fun m h => nomatch h
  have hlimit := optionJson_injective MemoryLimit.json_injective fun m h => nomatch h
  rintro ⟨⟩ ⟨⟩ h
  simpa [WorkloadStats.json, hcpu.eq_iff, hmemory.eq_iff, hlimit.eq_iff] using h

theorem Interface.json_injective : Function.Injective Interface.json := by
  rintro ⟨name, ⟨⟩, ⟨⟩⟩ ⟨name', ⟨⟩, ⟨⟩⟩ h
  simp only [Interface.json, Json.record.injEq, List.cons.injEq, Prod.mk.injEq, true_and,
    Json.text.injEq, counterJson_injective.eq_iff] at h
  simp [h]

theorem WorkloadId.json_injective : Function.Injective WorkloadId.json := by
  rintro ⟨⟩ ⟨⟩ h
  simpa [WorkloadId.json] using h

namespace Sample

theorem json_injective : Function.Injective Sample.json := by
  rintro ⟨⟩ ⟨⟩ h
  simpa [Sample.json, WorkloadId.json_injective.eq_iff, WorkloadStats.json_injective.eq_iff,
    counterJson_injective.eq_iff, (List.map_injective_iff.2 Interface.json_injective).eq_iff]
    using h

theorem toList_line (s : Sample) : s.line.toList = s.json.render := Json.toList_compact _

theorem line_injective : Function.Injective line := Json.compact_injective.comp json_injective

theorem newline_notMem_line (s : Sample) : '\n' ∉ s.line.toList := by
  rw [toList_line]
  exact fun h => absurd (Json.blank_le_of_mem_render h) (by decide)

/-- The samples written one below the other, each line ended by a line break. -/
def page (samples : List Sample) : List Char :=
  samples.flatMap fun s => s.line.toList ++ ['\n']

theorem page_cons (s : Sample) (samples : List Sample) :
    page (s :: samples) = s.line.toList ++ '\n' :: page samples := by
  rw [page, List.flatMap_cons, List.append_assoc, List.singleton_append, ← page]

theorem count_newline_page (samples : List Sample) :
    (page samples).count '\n' = samples.length := by
  induction samples with
  | nil => rfl
  | cons s samples ih =>
    rw [page_cons, List.count_append, List.count_cons_self, ih,
      List.count_eq_zero.2 (newline_notMem_line s), Nat.zero_add, List.length_cons]

theorem page_cons_ne (s : Sample) (samples : List Sample) : page (s :: samples) ≠ [] := by
  rw [page_cons]
  exact List.append_ne_nil_of_right_ne_nil _ (List.cons_ne_nil _ _)

theorem page_injective : Function.Injective page := by
  intro samples others h
  induction samples generalizing others with
  | nil =>
    cases others with
    | nil => rfl
    | cons s' others => exact absurd h.symm (page_cons_ne s' others)
  | cons s samples ih =>
    cases others with
    | nil => exact absurd h (page_cons_ne s samples)
    | cons s' others =>
      rw [page_cons, page_cons, toList_line, toList_line] at h
      obtain ⟨hjson, hrest⟩ :=
        Json.render_append_inj s.json (Json.stops_cons rfl _) (Json.stops_cons rfl _) h
      rw [json_injective hjson, ih (List.cons.inj hrest).2]

/-- **One line is one sample**: no line has a line break in it, and lines and pages tell the
    samples they were written for. -/
theorem one_line_each :
    (∀ s : Sample, ∀ c ∈ s.line.toList, 0x20 ≤ c.toNat) ∧ Function.Injective line ∧
      (∀ samples, (page samples).count '\n' = samples.length) ∧ Function.Injective page := by
  refine ⟨fun s c hc => ?_, line_injective, count_newline_page, page_injective⟩
  rw [toList_line] at hc
  exact Json.blank_le_of_mem_render hc

/-- A quote, a backslash and a line break in the id, a control character in the name of an
    interface, and a limit without a number beside no limit. -/
theorem one_line_each_of_awkward_names :
    let s : Sample :=
      { workload := ⟨"a\"b\\c\nd", by decide, by decide⟩
        stats := { limit := some ⟨none⟩ }
        hostUsage := 7
        interfaces := [{ name := "é\x01" }] }
    let t : Sample := { s with stats := {} }
    s.line =
      "\x7b\"workload_id\":\"a\\\"b\\\\c\\nd\"," ++
      "\"stats\":\x7b\"cpu_stat\":null,\"memory_usage\":null," ++
      "\"memory_limit\":\x7b\"limit_bytes\":null\x7d\x7d," ++
      "\"system_usage\":7,\"interfaces\":[\x7b\"name\":\"é\\u0001\"," ++
      "\"rx_bytes\":0,\"rx_packets\":0,\"rx_errors\":0,\"rx_dropped\":0," ++
      "\"tx_bytes\":0,\"tx_packets\":0,\"tx_errors\":0,\"tx_dropped\":0\x7d]\x7d" ∧
      '\n' ∉ s.line.toList ∧ s.line ≠ t.line ∧ (page [s, t]).count '\n' = 2 ∧
      page [s, t] ≠ page [t, s] := by
  intro s t
  obtain ⟨hblank, hline, hcount, hpage⟩ := one_line_each
  have hst : s ≠ t := by decide
  refine ⟨by decide +kernel, fun h => absurd (hblank s _ h) (by decide), hline.ne hst,
    hcount [s, t], hpage.ne fun h => hst (List.cons.inj h).1⟩

end Sample

end Workmeter
