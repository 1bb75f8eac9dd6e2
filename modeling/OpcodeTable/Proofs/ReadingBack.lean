import OpcodeTable.Proofs.ConsoleHistory
import OpcodeTable.Proofs.LineReading

set_option autoImplicit false

namespace OpcodeTable

open Sink (Record Console Device Operation)

def Readable (row : Bytes) : Prop := Bytes.newline ∉ row ∧ row.getLast? ≠ some Bytes.carriageReturn

instance (row : Bytes) : Decidable (Readable row) := inferInstanceAs (Decidable (_ ∧ _))

namespace Source

theorem drop_return_readable (row : Bytes) (readable : Readable row) : dropReturn row = row := by
  unfold dropReturn
  split
  · rename_i start shape
    refine absurd ?_ readable.2
    rw [List.getLast?_eq_head?_reverse, shape]
    rfl
  · rfl

theorem lines_of_rows (rows : List Bytes) (unbroken : ∀ row ∈ rows, Bytes.newline ∉ row) :
    linesOf (rows.flatMap (· ++ [Bytes.newline])) = rows := by
  induction rows with
  | nil => rfl
  | cons row rest ih =>
      rw [List.flatMap_cons, List.append_assoc, List.singleton_append,
        lines_of_line row _ (unbroken row List.mem_cons_self),
        ih (fun later member => unbroken later (List.mem_cons_of_mem row member))]

theorem effective_limit_again (setting : Int) : effectiveLimit (effectiveLimit setting) = effectiveLimit setting := by
  have positive := effective_limit_positive setting
  rw [effectiveLimit, if_neg (by omega), Int.toNat_natCast]

theorem effective_limit_above (setting : Int) (length : Nat) (below : length < setting) :
    length < effectiveLimit setting := by
  rw [effectiveLimit, if_neg (by omega)]
  omega

theorem run_reads_rows (rows reads : List Bytes) (path : String) (setting : Int) (files : Files)
    (reason : Fault) (readable : ∀ row ∈ rows, Readable row) (short : ∀ row ∈ rows, row.length < setting)
    (text : reads.flatten = rows.flatMap (· ++ [Bytes.newline])) :
    let report := (((Lines.ofStream ⟨reads, none⟩).configure path setting).run files ⟨false, reason⟩ .all).1
    report.rows = rows ∧ report.fault = none := by
  intro report
  have lines : linesOf (Stream.left ⟨reads, none⟩) = rows := by
    rw [Stream.left, text]
    exact lines_of_rows rows fun row member => (readable row member).1
  have fitting := Lines.run_on_fitting ((Lines.ofStream ⟨reads, none⟩).configure path setting) ⟨reads, none⟩ reason rfl
  rw [lines] at fitting
  have fits : ∀ row ∈ rows, row.length < effectiveLimit (effectiveLimit setting) := by
    intro row member
    rw [effective_limit_again]
    exact effective_limit_above setting row.length (short row member)
  obtain ⟨read, complete⟩ := fitting fits
  refine ⟨read.trans ?_, complete⟩
  calc
    rows.map dropReturn = rows.map id :=
      List.map_congr_left fun row member => drop_return_readable row (readable row member)
    _ = rows := List.map_id rows

end Source

namespace Sink

theorem printed_pushes (records : List Record) :
    Operation.printed false (records.map .push) = (records.map Record.line).flatMap (· ++ [Bytes.newline]) := by
  induction records with
  | nil => rfl
  | cons record rest ih => exact congrArg (record.line ++ [Bytes.newline] ++ ·) ih

theorem Console.unlimited_succeeds (device : Device) (operations : List Operation) (operation : Operation)
    (unlimited : device.room = none) (writes : operation.Writes) :
    (((onto device).performAll operations).perform operation).1 = none := by
  rw [perform_reply _ operation writes, ← perform_all_concat]
  exact (perform_all_carries device (operations ++ [operation])).working
    (((onto device).perform_all_extends (operations ++ [operation])).unlimited unlimited)

end Sink

theorem printed_rows_read_back (records : List Record) (fault : Fault) (direct : Bool) (path : String)
    (setting : Int) (files : Files) (reason : Fault) (readable : ∀ record ∈ records, Readable record.line)
    (short : ∀ record ∈ records, record.line.length < setting) :
    let start := Console.onto ⟨none, fault, [], direct⟩
    let console := start.performAll (records.map .push)
    (∀ before record after, records = before ++ record :: after →
      ((start.performAll (before.map .push)).push record).1 = none) ∧
    console.close.1 = none ∧
    ∀ reads : List Bytes, reads.flatten = console.close.2.written →
      let source := (Source.Lines.ofStream ⟨reads, none⟩).configure path setting
      let report := (source.run files ⟨false, reason⟩ .all).1
      report.rows = records.map Record.line ∧ report.fault = none := by
  intro start console
  have closed : console.close.1 = none :=
    Console.unlimited_succeeds ⟨none, fault, [], direct⟩ (records.map .push) .close rfl trivial
  refine ⟨?_, closed, ?_⟩
  · intro before record after _
    exact Console.unlimited_succeeds ⟨none, fault, [], direct⟩ (before.map .push) (.push record) rfl trivial
  · intro reads text
    rw [Console.close_written ⟨none, fault, [], direct⟩ (records.map .push) closed, Sink.printed_pushes] at text
    apply Source.run_reads_rows (records.map Record.line) reads path setting files reason
    · intro row member
      obtain ⟨record, found, rfl⟩ := List.mem_map.mp member
      exact readable record found
    · intro row member
      obtain ⟨record, found, rfl⟩ := List.mem_map.mp member
      exact short record found
    · exact text

-- An empty row, one with a carriage return inside, and one as long as the limit allows.
def pressed : List Record := [⟨0, []⟩, ⟨1, ascii "a\rb"⟩, ⟨2, ascii "wxyz"⟩, ⟨3, []⟩]

theorem pressed_read_back :
    (∀ record ∈ pressed, Readable record.line) ∧ (∀ record ∈ pressed, record.line.length < (5 : Int)) ∧
      let source := (Source.Lines.ofStream ⟨[ascii "\na\r", ascii "b\nwxy", ascii "z\n\n"], none⟩).configure "" 5
      (source.run .none false .all).1.rows = [[], ascii "a\rb", ascii "wxyz", []] ∧
        (source.run .none false .all).1.fault = none := by
  have readable : ∀ record ∈ pressed, Readable record.line := by decide
  have short : ∀ record ∈ pressed, record.line.length < (5 : Int) := by decide
  refine ⟨readable, short, ?_⟩
  exact (printed_rows_read_back pressed .misuse false "" 5 .none .canceled readable short).2.2 _ (by decide)

end OpcodeTable
