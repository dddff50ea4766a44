import Follon.Commercial.LedgerReopens
import Follon.Operations.JournalChain

/-!
# Failed writes of the two journals

A write that fails leaves the open journal as it was and its bytes in the
file.  The next write goes after them, so only failures that leave no piece of
a line behind keep the file readable.
-/

namespace Follon.Commercial

open Foundation Domain Operations

section
variable [ContentHash] [FromJson CommercialLedgerRecord]

def WritesTenantsOnce (ledger : CommercialLedger)
    (calls : List (LedgerCall × WriteOutcome)) : Prop :=
  ∀ before call rest, calls = before ++ call :: rest → call.2 ≠ .failed 0 →
    ¬Reprovisions (commercialLog.run ledger before) call.1

theorem keepsFinished_of_not_reprovisions {ledger : CommercialLedger}
    {call : LedgerCall × WriteOutcome} (h : ¬Reprovisions ledger call.1) :
    commercialLog.KeepsFinished LedgerReading.records ledger call := by
  intro reading next record hholds hfacts hprepare hnext
  obtain ⟨_, _, _, _, hmemory⟩ := hholds
  obtain ⟨hreadable, hnodup⟩ := checkFacts_eq_ok.mp hfacts
  refine checkFacts_eq_ok.mpr ?_
  rw [hnext]
  constructor
  · intro other hother
    obtain hother | hother := mem_append.mp hother
    · exact hreadable other hother
    · rw [mem_singleton.mp hother]
      exact LedgerMemory.accept_readable (LineLog.prepare_eq_ok.mp hprepare).1
  · apply (provisionedTenants_concat_nodup hnodup).mpr
    rintro ⟨hkind, htenant⟩
    apply h
    refine ⟨record, hprepare, hkind, ?_⟩
    rw [hmemory]
    exact htenant

end

/-- Both journals reopen after any run whose failed calls write nothing, or the
whole line of a record that nothing is written after, with every record reported
as written and no other than attempted ones; for the ledger, if no call that
writes provisions a tenant again. -/
theorem failed_writes_recovered [ContentHash] [FromJson JournalRecord]
    [FromJson CommercialLedgerRecord] (hhash : PrintsDigests)
    (hjournal : FromJson.ReadsBack JournalRecord.canonicalJson)
    (hledger : FromJson.ReadsBack CommercialLedgerRecord.canonicalJson) :
    (∀ contents journal (calls : List (JournalEntryInput × WriteOutcome)),
      OperationalJournal.openFile contents = .ok journal →
      operationsLog.WritesWhole journal calls →
        operationsLog.ReopensAfter JournalReading.records contents journal
          calls) ∧
      ∀ contents ledger (calls : List (LedgerCall × WriteOutcome)),
        CommercialLedger.openFile contents = .ok ledger →
        commercialLog.WritesWhole ledger calls →
        WritesTenantsOnce ledger calls →
          commercialLog.ReopensAfter LedgerReading.records contents ledger
            calls := by
  constructor
  · intro contents journal calls hopen hwhole
    apply (operationsLog_lawful hhash hjournal).reopensAfter hopen hwhole
    intro before call rest _ _ reading next record _ _ _ _
    rfl
  · intro contents ledger calls hopen hwhole honce
    apply (commercialLog_lawful hhash hledger).reopensAfter hopen hwhole
    intro before call rest hcalls hwrites
    exact keepsFinished_of_not_reprovisions (honce before call rest hcalls hwrites)

namespace FailedWriteRun

/-! ## A failure that writes nothing, and one that writes one byte -/

attribute [local instance] JournalRun.recordedDigest JournalRun.lineReader
  LedgerRun.lineReader

def retried {ι : Type} (input : ι) : List (ι × WriteOutcome) :=
  [(input, .failed 0), (input, .completed)]

theorem retried_writesWhole {σ μ ι ρ ε : Type} (log : LineLog σ μ ι ρ ε)
    (handle : LogHandle μ) (input : ι) : log.WritesWhole handle (retried input) := by
  intro before call rest hcalls record written _ hfailed
  have hmem : call ∈ retried input := by
    rw [hcalls]
    exact mem_append_right _ mem_cons_self
  simp only [retried, mem_cons, not_mem_nil, or_false] at hmem
  obtain rfl | rfl := hmem
  · exact .inl (WriteOutcome.failed.inj hfailed).symm
  · contradiction

theorem retried_writesTenantsOnce :
    WritesTenantsOnce LedgerRun.start (retried (LedgerRun.call "first")) := by
  have hsilent : commercialLog.Silent LedgerRun.start
      (LedgerRun.call "first", .failed 0) := fun _ _ => rfl
  have hfirst : ¬Reprovisions LedgerRun.start (LedgerRun.call "first") := by
    rintro ⟨_, _, _, htenant⟩
    exact not_mem_nil htenant
  refine LineLog.forall_calls_cons.mpr ⟨fun hwrites => absurd rfl hwrites, ?_⟩
  refine LineLog.forall_calls_cons.mpr ⟨?_, by simp⟩
  intro _
  change ¬Reprovisions (commercialLog.after LedgerRun.start _) _
  rw [LineLog.after_silent hsilent]
  exact hfirst

/-- A call whose write fails before its first byte is made again, and both
journals reopen. -/
theorem retried_call_recovered :
    operationsLog.ReopensAfter JournalReading.records [] JournalRun.start
        (retried JournalRun.input) ∧
      commercialLog.ReopensAfter LedgerReading.records [] LedgerRun.start
        (retried (LedgerRun.call "first")) := by
  have hjournal := operationsLog_lawful JournalRun.printsDigests
    JournalRun.readsBack
  have hledger := commercialLog_lawful JournalRun.printsDigests
    LedgerRun.readsBack
  obtain ⟨hoperations, hcommercial⟩ := failed_writes_recovered
    JournalRun.printsDigests JournalRun.readsBack LedgerRun.readsBack
  constructor
  · apply hoperations
    · exact hjournal.openFile_of_holds JournalRun.start_holds rfl
    · exact retried_writesWhole _ _ _
  · apply hcommercial
    · exact hledger.openFile_of_holds (LineLog.holds_new _)
        hledger.start_finished
    · exact retried_writesWhole _ _ _
    · exact retried_writesTenantsOnce

theorem canonicalJson_brace (record : JournalRecord) :
    ∃ rest, record.canonicalJson = "\x7b" ++ rest := by
  rw [JournalRecord.canonicalJson, JournalRecord.value, Json.print_obj,
    String.append_assoc]
  exact ⟨_, rfl⟩

/-- The disk is full after the first byte of a new journal's first line: the
journal does not open again. -/
theorem first_byte_closes_journal :
    OperationalJournal.openFile JournalRun.start.contents = .ok JournalRun.start ∧
      OperationalJournal.openFile (operationsLog.run JournalRun.start
        [(JournalRun.input, .failed 1)]).contents
        = .error ⟨"operations journal must end on a complete " ++
            "newline-delimited record"⟩ := by
  have hlaw := operationsLog_lawful JournalRun.printsDigests
    JournalRun.readsBack
  refine ⟨hlaw.openFile_of_holds JournalRun.start_holds rfl, ?_⟩
  obtain ⟨rest, hline⟩ := canonicalJson_brace JournalRun.record
  exact LineLog.openFile_torn rfl JournalRun.prepare_input hline (by decide)
    (by decide) (by decide)

end FailedWriteRun

end Follon.Commercial
