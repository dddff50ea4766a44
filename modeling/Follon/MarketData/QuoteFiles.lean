import Follon.Foundation.JoinedTexts
import Follon.MarketData.Quotes

/-!
# Quote files

A quote is one comma-joined row, and no field of a valid quote holds a comma
or a blank, so a file is read back as the quotes it was written from.
-/

namespace Follon.MarketData

open Foundation Domain

def quoteCsvHeader : String :=
  "event_time,received_at,instrument_id,quote_id,source_sequence,bid_price,bid_quantity,ask_price,ask_quantity"

def dropPlus : List Char → List Char
  | '+' :: rest => rest
  | digits => digits

/-- `str::parse::<u64>()` -/
def parseU64 (text : List Char) : Option UInt64 :=
  let digits := dropPlus text
  let value := Nat.ofDigitChars 10 digits 0
  if digits ≠ [] ∧ digits.all isAsciiDigit = true ∧ value < 2 ^ 64 then
    some (UInt64.ofNat value)
  else
    none

/-! ## Writing -/

def Quote.fields (quote : Quote) : List String :=
  [quote.eventTime, quote.receivedAt, quote.instrumentId, quote.quoteId,
    toString quote.sourceSequence.toNat, quote.bidPrice.display,
    quote.bidQuantity.display, quote.askPrice.display, quote.askQuantity.display]

def pushRow (output : String) (quote : Quote) : String :=
  output ++ joinWith "," quote.fields ++ "\n"

def quotesToCsv (quotes : List Quote) : String :=
  quotes.foldl pushRow (quoteCsvHeader ++ "\n")

/-! ## Reading -/

def readSequence (row : Nat) (field : List Char) : Result UInt64 :=
  match parseU64 field with
  | some sequence => .ok sequence
  | none => .error ⟨"invalid source sequence on row " ++ toString row⟩

def readDecimal (row : Nat) (field : List Char) (name : String) : Result Decimal :=
  match Decimal.parseChars field with
  | .ok value => .ok value
  | .error error =>
    .error ⟨"invalid " ++ name ++ " on row " ++ toString row ++ ": " ++ error.message⟩

def importRow (row : Nat) (line : String) : Result Quote :=
  match (pieces ',' line).map trimChars with
  | [eventTime, receivedAt, instrumentId, quoteId, sourceSequence, bidPrice,
      bidQuantity, askPrice, askQuantity] => do
    let sourceSequence ← readSequence row sourceSequence
    let bidPrice ← readDecimal row bidPrice "bid price"
    let bidQuantity ← readDecimal row bidQuantity "bid quantity"
    let askPrice ← readDecimal row askPrice "ask price"
    let askQuantity ← readDecimal row askQuantity "ask quantity"
    let quote : Quote :=
      { eventTime := String.ofList eventTime, receivedAt := String.ofList receivedAt
        instrumentId := String.ofList instrumentId, quoteId := String.ofList quoteId
        sourceSequence, bidPrice, bidQuantity, askPrice, askQuantity }
    quote.validate
    pure quote
  | _ => .error ⟨"invalid quote row " ++ toString row⟩

def importRows (row : Nat) : List String → Result (List Quote)
  | [] => .ok []
  | line :: rest => do
    let quote ← importRow row line
    let quotes ← importRows (row + 1) rest
    pure (quote :: quotes)

/-- The header past a byte-order mark and carriage returns. -/
def headerText (header : String) : List Char :=
  ((header.toList.dropWhile (· = '\uFEFF')).reverse.dropWhile (· = '\r')).reverse

def importQuotes (csv : String) : Result (List Quote) :=
  match (lines csv).filter fun line => !isBlank line with
  | [] => .error ⟨"quote CSV is empty"⟩
  | header :: rows => do
    refuseIf (headerText header ≠ quoteCsvHeader.toList)
      "quote CSV header does not match v1 contract"
    importRows 2 rows

/-! ## Fields -/

def isFieldChar (c : Char) : Bool := c != ',' && !isWhiteSpace c

def IsField (text : List Char) : Prop := ∀ c ∈ text, isFieldChar c = true

variable {quote : Quote} {quotes : List Quote} {text : List Char}

theorem IsField.trimChars_eq (h : IsField text) : trimChars text = text := by
  have hvisible : ∀ c ∈ text, isWhiteSpace c = false := by
    intro c hc
    have hfield := h c hc
    rw [isFieldChar, and_eq_true, Bool.not_eq_true'] at hfield
    exact hfield.2
  exact trimChars_of_ends (fun c hc => hvisible c (List.mem_of_head? hc))
    fun c hc => hvisible c (List.mem_of_getLast? hc)

variable {c : Char}

theorem IsField.not_mem (h : IsField text) (hc : isFieldChar c = false) : c ∉ text := by
  intro hmem
  rw [h c hmem] at hc
  contradiction

theorem isFieldChar_of_ascii {p : Char → Bool}
    (hascii : ∀ n < 128, p (Char.ofNat n) = true → isFieldChar (Char.ofNat n) = true)
    (hlow : c.toNat < 128) (h : p c = true) : isFieldChar c = true := by
  have hchar := hascii c.toNat hlow
  rw [Char.ofNat_toNat] at hchar
  exact hchar h

theorem isFieldChar_of_isCanonicalChar (h : isCanonicalChar c = true) :
    isFieldChar c = true := by
  refine isFieldChar_of_ascii (by decide) ?_ h
  simp only [isCanonicalChar, isAsciiDigit, or_eq_true, and_eq_true,
    decide_eq_true_eq, beq_iff_eq] at h
  rcases h with (((⟨-, hz⟩ | ⟨-, hz⟩) | rfl) | rfl) | rfl
  · exact Nat.lt_of_le_of_lt (UInt32.le_iff_toNat_le.mp hz) (by decide)
  · exact Nat.lt_of_le_of_lt (UInt32.le_iff_toNat_le.mp hz) (by decide)
  · decide
  · decide
  · decide

theorem isFieldChar_of_isAsciiDigit (h : isAsciiDigit c = true) : isFieldChar c = true :=
  isFieldChar_of_isCanonicalChar (by simp [isCanonicalChar, h])

theorem isField_of_isUtcTimestamp {time : String} (h : isUtcTimestamp time = true) :
    IsField time.toList := by
  simp only [isUtcTimestamp, hasCanonicalShape, and_eq_true] at h
  intro c hc
  obtain ⟨index, hindex, hget⟩ := List.getElem_of_mem hc
  have hentry : (c, index) ∈ time.toList.zipIdx := by
    rw [List.mem_zipIdx_iff_getElem?, List.getElem?_eq_getElem hindex, hget]
  have hchar := all_eq_true.mp h.1.2 _ hentry
  simp only at hchar
  split_ifs at hchar
  · rw [beq_iff_eq.mp hchar]
    decide
  · rw [beq_iff_eq.mp hchar]
    decide
  · rw [beq_iff_eq.mp hchar]
    decide
  · rw [beq_iff_eq.mp hchar]
    decide
  · exact isFieldChar_of_isAsciiDigit hchar

/-- What validation says of a quote's fields. -/
structure Quote.Printable (quote : Quote) : Prop where
  fields : ∀ field ∈ quote.fields, IsField field.toList
  prices : ∀ d ∈ [quote.bidPrice, quote.bidQuantity, quote.askPrice,
    quote.askQuantity], 0 ≤ d.scaled

theorem valid_of_parseUtc {value : String} {instant : Int}
    (h : parseUtc value = .ok instant) : isUtcTimestamp value = true := by
  simp only [parseUtc, bind_eq_ok, validateUtcTimestamp_eq_ok] at h
  obtain ⟨-, hvalid, -⟩ := h
  exact hvalid

theorem Quote.printable (h : quote.validate = .ok ()) : quote.Printable := by
  simp only [Quote.validate, bind_eq_ok, validateCanonicalId_eq_ok, refuseIf_eq_ok,
    not_or, le_def, lt_def, scaled_zero] at h
  obtain ⟨-, hinstrument, -, hid, _, hevent, _, hreceived, -, -, hbid, hask, -,
    hbidQuantity, haskQuantity⟩ := h
  have hcanonical : ∀ id : String, isCanonicalId id = true → IsField id.toList := by
    intro id hid c hc
    rw [isCanonicalId, and_eq_true] at hid
    exact isFieldChar_of_isCanonicalChar (all_eq_true.mp hid.2 c hc)
  have hdecimal : ∀ d : Decimal, IsField d.display.toList := by
    intro d c hc
    rcases mem_display hc with rfl | rfl | hdigit
    · decide
    · decide
    · exact isFieldChar_of_isAsciiDigit hdigit
  have hsequence : IsField (toString quote.sourceSequence.toNat).toList := by
    intro c hc
    rw [Nat.toString_eq_ofList_toDigits, toList_ofList] at hc
    exact isFieldChar_of_isAsciiDigit (isAsciiDigit_of_mem_toDigits hc)
  refine ⟨?_, ?_⟩
  · simp only [Quote.fields, forall_mem_cons]
    exact ⟨isField_of_isUtcTimestamp (valid_of_parseUtc hevent),
      isField_of_isUtcTimestamp (valid_of_parseUtc hreceived),
      hcanonical _ hinstrument, hcanonical _ hid, hsequence, hdecimal _, hdecimal _,
      hdecimal _, hdecimal _, List.forall_mem_nil _⟩
  · simp only [forall_mem_cons]
    exact ⟨by omega, by omega, by omega, by omega, List.forall_mem_nil _⟩

/-! ## Reading back -/

theorem parseU64_toString (sequence : UInt64) :
    parseU64 (toString sequence.toNat).toList = some sequence := by
  have hdigits : ∀ c ∈ Nat.toDigits 10 sequence.toNat, isAsciiDigit c = true :=
    fun c hc => isAsciiDigit_of_mem_toDigits hc
  have hplus : dropPlus (Nat.toDigits 10 sequence.toNat)
      = Nat.toDigits 10 sequence.toNat := by
    unfold dropPlus
    split
    · next rest hsign =>
      have hdigit := hdigits '+' (hsign ▸ mem_cons_self)
      contradiction
    · rfl
  rw [Nat.toString_eq_ofList_toDigits, toList_ofList, parseU64, hplus,
    Nat.ofDigitChars_ten_toDigits, if_pos ⟨Nat.toDigits_ne_nil,
    all_eq_true.mpr hdigits, sequence.toNat_lt⟩, UInt64.ofNat_toNat]

theorem readDecimal_display (row : Nat) {d : Decimal} (h : 0 ≤ d.scaled)
    (name : String) : readDecimal row d.display.toList name = .ok d := by
  have hparse : Decimal.parse d.display = .ok d := by
    refine Decimal.parse_display_iff.mpr fun hmin => ?_
    rw [hmin] at h
    exact absurd h (by decide)
  rw [readDecimal, show Decimal.parseChars d.display.toList = .ok d from hparse]

theorem Quote.Printable.pieces (h : quote.Printable) :
    (pieces ',' (joinWith "," quote.fields)).map trimChars
      = quote.fields.map String.toList := by
  rw [pieces_joinWith rfl (by simp [Quote.fields])]
  have hfields := h.fields
  generalize quote.fields = fields at hfields
  induction fields with
  | nil => rfl
  | cons field rest ih =>
    obtain ⟨hfield, hrest⟩ := forall_mem_cons.mp hfields
    rw [flatMap_cons, pieces_of_not_mem (hfield.not_mem (by decide)),
      map_append, ih hrest, List.map_singleton, hfield.trimChars_eq]
    rfl

theorem importRow_fields (h : quote.validate = .ok ()) (row : Nat) :
    importRow row (joinWith "," quote.fields) = .ok quote := by
  have hprintable := Quote.printable h
  have hprices := hprintable.prices
  simp only [forall_mem_cons] at hprices
  obtain ⟨hbid, hbidQuantity, hask, haskQuantity, -⟩ := hprices
  rw [importRow, hprintable.pieces]
  simp only [Quote.fields, map_cons, map_nil, readSequence, parseU64_toString,
    readDecimal_display row hbid, readDecimal_display row hbidQuantity,
    readDecimal_display row hask, readDecimal_display row haskQuantity,
    String.ofList_toList]
  have hdone : (quote.validate >>= fun _ => (pure quote : Result Quote)) = .ok quote :=
    bind_eq_ok.mpr ⟨(), h, rfl⟩
  exact hdone

theorem importRows_fields (h : ∀ quote ∈ quotes, quote.validate = .ok ()) (row : Nat) :
    importRows row (quotes.map fun quote => joinWith "," quote.fields)
      = .ok quotes := by
  induction quotes generalizing row with
  | nil => rfl
  | cons quote rest ih =>
    obtain ⟨hquote, hrest⟩ := forall_mem_cons.mp h
    rw [map_cons, importRows, importRow_fields hquote, ih hrest]
    rfl

theorem Quote.Printable.row (h : quote.Printable) :
    '\n' ∉ (joinWith "," quote.fields).toList ∧
      '\r' ∉ (joinWith "," quote.fields).toList :=
  ⟨not_mem_joinWith (by decide) fun field hfield =>
      (h.fields field hfield).not_mem (by decide),
    not_mem_joinWith (by decide) fun field hfield =>
      (h.fields field hfield).not_mem (by decide)⟩

theorem lines_quotesToCsv (h : ∀ quote ∈ quotes, quote.validate = .ok ()) :
    lines (quotesToCsv quotes)
      = quoteCsvHeader :: quotes.map fun quote => joinWith "," quote.fields := by
  have hrun : ∀ output, Terminated output →
      lines (quotes.foldl pushRow output)
        = lines output ++ quotes.map fun quote => joinWith "," quote.fields := by
    induction quotes with
    | nil => simp
    | cons quote rest ih =>
      intro output houtput
      obtain ⟨hquote, hrest⟩ := forall_mem_cons.mp h
      obtain ⟨hfeed, hreturn⟩ := (Quote.printable hquote).row
      rw [List.foldl_cons, ih hrest (pushRow output quote) (.inr ⟨_, rfl⟩), pushRow,
        lines_append houtput hfeed hreturn, append_assoc]
      rfl
  have hheader : lines (quoteCsvHeader ++ "\n") = [quoteCsvHeader] := by
    have happend := @lines_append "" quoteCsvHeader (.inl rfl)
      (by decide) (by decide)
    rwa [String.empty_append] at happend
  rw [quotesToCsv, hrun _ (.inr ⟨_, rfl⟩), hheader]
  rfl

/-- A row has a comma, so no row is blank. -/
theorem not_isBlank_row (quote : Quote) :
    isBlank (joinWith "," quote.fields) = false := by
  rw [isBlank, List.all_eq_false]
  refine ⟨',', ?_, by decide⟩
  simp [Quote.fields, joinWith]

theorem importQuotes_quotesToCsv (h : ∀ quote ∈ quotes, quote.validate = .ok ()) :
    importQuotes (quotesToCsv quotes) = .ok quotes := by
  have hkept : ((quoteCsvHeader :: quotes.map fun quote => joinWith "," quote.fields).filter
      fun line => !isBlank line)
        = quoteCsvHeader :: quotes.map fun quote => joinWith "," quote.fields := by
    refine List.filter_eq_self.mpr ?_
    rw [forall_mem_cons]
    refine ⟨by decide, fun line hline => ?_⟩
    obtain ⟨quote, -, rfl⟩ := mem_map.mp hline
    rw [not_isBlank_row]
    rfl
  have hheader : ¬headerText quoteCsvHeader ≠ quoteCsvHeader.toList := by
    decide +kernel
  rw [importQuotes, lines_quotesToCsv h, hkept]
  exact bind_eq_ok.mpr ⟨(), refuseIf_of_not hheader, importRows_fields h 2⟩

theorem validate_of_importRows {row : Nat} {rows : List String}
    (h : importRows row rows = .ok quotes) :
    ∀ quote ∈ quotes, quote.validate = .ok () := by
  induction rows generalizing row quotes with
  | nil =>
    rw [← Except.ok.inj h]
    exact fun quote hmem => absurd hmem not_mem_nil
  | cons line rest ih =>
    simp only [importRows, bind_eq_ok] at h
    obtain ⟨quote, hquote, later, hlater, h⟩ := h
    rw [← Except.ok.inj h]
    refine forall_mem_cons.mpr ⟨?_, ih hlater⟩
    unfold importRow at hquote
    split at hquote
    · simp only [bind_eq_ok] at hquote
      obtain ⟨_, -, _, -, _, -, _, -, _, -, _, hvalid, hquote⟩ := hquote
      rw [← Except.ok.inj hquote]
      exact hvalid
    · contradiction

/-- Valid quotes are read back from their file, and so are the quotes of any
file that is accepted. -/
structure RoundTrips : Prop where
  written : ∀ quotes : List Quote, (∀ quote ∈ quotes, quote.validate = .ok ()) →
    importQuotes (quotesToCsv quotes) = .ok quotes
  accepted : ∀ csv quotes, importQuotes csv = .ok quotes →
    importQuotes (quotesToCsv quotes) = .ok quotes

theorem quote_files_round_trip : RoundTrips := by
  refine ⟨fun quotes h => importQuotes_quotesToCsv h, fun csv quotes h => ?_⟩
  refine importQuotes_quotesToCsv ?_
  unfold importQuotes at h
  split at h
  · contradiction
  · simp only [bind_eq_ok] at h
    obtain ⟨-, -, h⟩ := h
    exact validate_of_importRows h

end Follon.MarketData
