import OpcodeTable.Proofs.LineReading

set_option autoImplicit false

namespace OpcodeTable.Source

def withoutBlankEnd (parts : List Bytes) : List Bytes :=
  if parts.getLast? = some [] then parts.dropLast else parts

-- The segments of a text between its newlines. What follows the last newline is one unless it is empty.
def segmentsOf (text : Bytes) : List Bytes := withoutBlankEnd (text.splitOn Bytes.newline)

def rowOf (segment : Bytes) : Bytes :=
  if segment.getLast? = some Bytes.carriageReturn then segment.dropLast else segment

def fitting (limit : Nat) (segments : List Bytes) : List Bytes :=
  segments.takeWhile fun segment => segment.length < limit

theorem without_blank_end_cons (part next : Bytes) (more : List Bytes) :
    withoutBlankEnd (part :: next :: more) = part :: withoutBlankEnd (next :: more) := by
  unfold withoutBlankEnd
  rw [List.getLast?_cons_cons, List.dropLast_cons_cons]
  split
  · rfl
  · rfl

theorem without_blank_end_present (part : Bytes) (present : part ≠ []) : withoutBlankEnd [part] = [part] := by
  simp [withoutBlankEnd, present]

theorem lines_of_segments (text : Bytes) : linesOf text = segmentsOf text := by
  induction text with
  | nil => rfl
  | cons byte rest ih =>
      rw [linesOf, ih, segmentsOf, segmentsOf, List.splitOn_cons_eq_if_modifyHead]
      cases parts : rest.splitOn Bytes.newline with
      | nil => exact absurd parts (List.splitOn_ne_nil _ _)
      | cons head tail =>
          by_cases newline : byte = Bytes.newline
          · simp only [newline, if_true, beq_self_eq_true]
            exact (without_blank_end_cons [] head tail).symm
          · simp only [newline, beq_iff_eq, if_false, List.modifyHead_cons]
            cases tail with
            | nil =>
                rw [without_blank_end_present (byte :: head) (by simp)]
                cases head with
                | nil => rfl
                | cons _ _ => rw [without_blank_end_present _ (by simp)]
            | cons next more => rw [without_blank_end_cons, without_blank_end_cons]

theorem drop_return_row (segment : Bytes) : dropReturn segment = rowOf segment := by
  rcases List.eq_nil_or_concat segment with rfl | ⟨start, last, rfl⟩
  · rfl
  · rw [dropReturn, rowOf, List.concat_eq_append, List.reverse_concat, List.getLast?_concat, List.dropLast_concat]
    split
    · rename_i shape
      cases shape
      simp [Bytes.carriageReturn]
    · rename_i shape
      rw [if_neg]
      intro same
      exact shape start.reverse (by rw [Option.some.inj same]; rfl)

theorem fitting_split (limit : Nat) (segments : List Bytes) :
    fitting limit segments = segments ∨
      ∃ long rest, segments = fitting limit segments ++ long :: rest ∧ limit ≤ long.length := by
  have parts := List.takeWhile_append_dropWhile (p := fun segment => decide (segment.length < limit)) (l := segments)
  cases left : segments.dropWhile (fun segment => decide (segment.length < limit)) with
  | nil =>
      rw [left, List.append_nil] at parts
      exact Or.inl parts
  | cons long rest =>
      have stopped := List.head_dropWhile_not (fun segment => decide (segment.length < limit)) (l := segments)
        (by simp [left])
      simp only [left, List.head_cons, decide_eq_false_iff_not, Nat.not_lt] at stopped
      rw [left] at parts
      exact Or.inr ⟨long, rest, parts.symm, stopped⟩

theorem fitting_short (limit : Nat) (segments : List Bytes) :
    ∀ segment ∈ fitting limit segments, segment.length < limit := by
  intro segment member
  have kept := List.all_eq_true.mp List.all_takeWhile segment member
  exact of_decide_eq_true kept

theorem offer_all_segments (limit : Nat) (ending : Option Fault) (reason : Fault) (segments : List Bytes) :
    let short := fitting limit segments
    offerAll limit .all ending segments ⟨[], 0, ⟨false, reason⟩⟩ =
      (⟨(short.map rowOf).reverse, short.length, ⟨false, reason⟩⟩,
        if short = segments then ending else some (tooLong short.length)) := by
  have rows : (fitting limit segments).map dropReturn = (fitting limit segments).map rowOf :=
    List.map_congr_left fun segment _ => drop_return_row segment
  have offered (rest : List Bytes) := offer_all_fitting limit ending (fitting limit segments) rest [] 0 reason
    (fitting_short limit segments)
  dsimp only
  rcases fitting_split limit segments with all | ⟨long, rest, split, overrun⟩
  · have whole := offered []
    rw [List.append_nil, rows, List.append_nil, Nat.zero_add, all] at whole
    rw [all, if_pos rfl, whole, offerAll]
  · have stopped := offered (long :: rest)
    rw [← split, rows, List.append_nil, Nat.zero_add, offerAll, if_pos overrun] at stopped
    have partly : fitting limit segments ≠ segments := by
      intro same
      rw [same] at split
      exact absurd split (by simp)
    rw [if_neg partly, stopped]

namespace Lines

theorem run_splits_text (origin : Origin) (path : String) (setting : Int) (stream : Stream) (files : Files)
    (reason : Fault) :
    let source : Lines := ⟨origin, path, setting, some stream⟩
    let report := (source.run files ⟨false, reason⟩ .all).1
    let limit := if setting ≤ 0 then 1048576 else setting.toNat
    let segments := segmentsOf stream.left
    let short := fitting limit segments
    report.rows = short.map rowOf ∧
      (short = segments → report.fault = stream.ending) ∧
      (short ≠ segments → ∃ fault, report.fault = some fault ∧ fault.causes = [.lineTooLong] ∧
        fault.message = Fault.lineTooLong.message ++ " (after line " ++ toString report.rows.length ++ ")") := by
  intro source report limit segments short
  obtain ⟨left, passed⟩ := source.run_on_refines stream ⟨false, reason⟩ .all
  rw [lines_of_segments, offer_all_segments] at passed
  have rows : report.rows = short.map rowOf := by
    simp only [report, run, source, runOn, passed, stopAfter, Pass.stop, List.reverse_reverse]
    rfl
  have fault : report.fault = if short = segments then stream.ending else some (tooLong short.length) := by
    simp only [report, run, source, runOn, passed, stopAfter, Pass.stop]
    rfl
  refine ⟨rows, ?_, ?_⟩
  · intro all
    rw [fault, if_pos all]
  · intro partly
    refine ⟨tooLong short.length, by rw [fault, if_neg partly], rfl, ?_⟩
    rw [rows, List.length_map, tooLong, Fault.within_message]
    simp [String.append_assoc]

end Lines

end OpcodeTable.Source
