import Follon.Foundation.HashChain
import Follon.Foundation.SerdeJson
import Follon.Domain.Failure

/-!
# The PAPER journal

A file of complete snapshots, one record a line.  Records of the current
version are chained by hashes; records of the version before carry none, and
enter the chain by their text.
-/

namespace Follon.Paper

open Foundation Domain

def paperJournalSchemaVersion : Nat := 3

def legacyPaperJournalSchemaVersion : Nat := 2

def maxPaperJournalBytes : Nat := 64 * 1024 * 1024

/-! ## Records -/

structure PersistentJournalRecordV3 (State : Type) where
  (schemaVersion sequence : Nat)
  previousHash : String
  state : State
  entryHash : String

structure PersistentJournalRecordV2 (State : Type) where
  (schemaVersion sequence : Nat)
  state : State

inductive PersistentJournalRecord (State : Type) where
  | v3 (record : PersistentJournalRecordV3 State)
  | v2 (record : PersistentJournalRecordV2 State)

variable {State : Type} [SerdeJson (PersistentJournalRecord State)]
  [ContentHash]

def PersistentJournalRecordV3.unsigned (record : PersistentJournalRecordV3 State) :
    PersistentJournalRecordV3 State :=
  { record with entryHash := "" }

def canonicalRecord (record : PersistentJournalRecordV3 State) : List UInt8 :=
  (SerdeJson.toText (PersistentJournalRecord.v3 record.unsigned)).toUTF8.toList

def paperRecordHash (record : PersistentJournalRecordV3 State) : String :=
  ContentHash.hexDigest (canonicalRecord record)

def legacyAnchor (previousHash canonicalLine : String) : List UInt8 :=
  "follon-paper-journal-v2-anchor".toUTF8.toList ++
    previousHash.toUTF8.toList ++ lengthPrefixed canonicalLine

def legacyPaperRecordHash (previousHash canonicalLine : String) : String :=
  ContentHash.hexDigest (legacyAnchor previousHash canonicalLine)

/-! ## Opening -/

structure JournalReading (State : Type) where
  nextSequence : Nat
  previousHash : String
  modernRecordSeen : Bool
  latest : Option State

def JournalReading.start : JournalReading State where
  nextSequence := 1
  previousHash := String.ofList (List.replicate 64 '0')
  modernRecordSeen := false
  latest := none

def JournalReading.accept (reading : JournalReading State) (line : String)
    (index : Nat) : PersistentJournalRecord State → Result (JournalReading State)
  | .v3 record => do
    refuseIf (record.schemaVersion ≠ paperJournalSchemaVersion ∨
        record.sequence ≠ reading.nextSequence ∨
        record.previousHash ≠ reading.previousHash ∨
        record.entryHash ≠ paperRecordHash record)
      ("paper journal integrity check failed at line " ++ toString (index + 1))
    pure
      { nextSequence := reading.nextSequence + 1
        previousHash := record.entryHash, modernRecordSeen := true
        latest := some record.state }
  | .v2 record => do
    refuseIf (reading.modernRecordSeen = true ∨
        record.schemaVersion ≠ legacyPaperJournalSchemaVersion ∨
        record.sequence ≠ reading.nextSequence)
      ("paper journal legacy record is invalid at line " ++ toString (index + 1))
    pure
      { reading with
        nextSequence := reading.nextSequence + 1
        previousHash := legacyPaperRecordHash reading.previousHash line
        latest := some record.state }

def parseLine (line : String) (index : Nat) : Result (PersistentJournalRecord State) :=
  match SerdeJson.fromText line with
  | .ok record => pure record
  | .error error => .error ⟨"invalid paper journal line " ++
      toString (index + 1) ++ ": " ++ error⟩

def JournalReading.readLine (reading : JournalReading State)
    (entry : String × Nat) : Result (JournalReading State) := do
  let (line, index) := entry
  refuseIf (line.isEmpty = true)
    ("paper journal contains an empty line at " ++ toString (index + 1))
  let record ← parseLine line index
  refuseIf (SerdeJson.toText record ≠ line)
    ("paper journal line " ++ toString (index + 1) ++ " is not canonical JSON")
  reading.accept line index record

structure PaperJournalFile (State : Type) where
  contents : String
  nextSequence : Nat
  previousHash : String
  latest : Option State

namespace PaperJournalFile

def readContents (contents : String) : Result (JournalReading State) :=
  (lines contents).zipIdx.foldlM JournalReading.readLine .start

def openWith (contents : String) : Result (PaperJournalFile State) := do
  refuseIf (maxPaperJournalBytes < contents.utf8ByteSize)
    ("paper journal exceeds the " ++ toString maxPaperJournalBytes ++
      " byte recovery limit; rotate and archive it before restart")
  let reading ← readContents contents
  pure
    { contents
      nextSequence := reading.nextSequence
      previousHash := reading.previousHash
      latest := reading.latest }

def sequence (journal : PaperJournalFile State) : Nat := journal.nextSequence - 1

def headHash (journal : PaperJournalFile State) : String := journal.previousHash

/-! ## Appending -/

def unsignedRecord (journal : PaperJournalFile State) (state : State) :
    PersistentJournalRecordV3 State where
  schemaVersion := paperJournalSchemaVersion
  sequence := journal.nextSequence
  previousHash := journal.previousHash
  state := state
  entryHash := ""

def nextRecord (journal : PaperJournalFile State) (state : State) :
    PersistentJournalRecordV3 State :=
  let record := journal.unsignedRecord state
  { record with entryHash := paperRecordHash record }

def append (journal : PaperJournalFile State) (state : State) : PaperJournalFile State :=
  let record := journal.nextRecord state
  { contents := journal.contents ++
      SerdeJson.toText (PersistentJournalRecord.v3 record) ++ "\n"
    nextSequence := journal.nextSequence + 1
    previousHash := record.entryHash
    latest := some record.state }

def appendAll (journal : PaperJournalFile State) (states : List State) :
    PaperJournalFile State :=
  states.foldl append journal

end PaperJournalFile

end Follon.Paper
