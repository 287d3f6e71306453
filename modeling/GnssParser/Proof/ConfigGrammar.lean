import GnssParser.Proof.ReceiverConfig

/-!
# The grammar of configuration files

The files `ParseUCenterConfig` accepts are those of a grammar whose tokens are read by `std::stoul`.
-/

namespace GnssParser
open Text Checked

/-! ## The grammar -/

def IsHex (c : Char) : Prop := (digitValue 16 c).isSome

/-- The byte that a token of hexadecimal digits denotes. -/
def hexByte (token : List Char) : Option UInt8 := do
  let digits ← token.mapM (digitValue 16)
  if token = [] ∨ 0xFF < ofDigits 16 digits then none else some (UInt8.ofNat (ofDigits 16 digits))

/-- The byte that `std::stoul` makes of a token. -/
def stoulByte (token : List Char) : Option UInt8 :=
  match stoull 16 token with
  | .ok value => if value > 0xFF then none else some value.toUInt8
  | .error _ => none

/-- The bytes of a CFG-VALSET or CFG-VALGET message with these items. -/
inductive CfgMessage : List UInt8 → List RcvConfigRecord → Prop where
  | intro {id lo hi : UInt8} {fixed : List UInt8} {items : List RcvConfigRecord}
      (known : id = 0x8A ∨ id = 0x8B) (four : fixed.length = 4)
      (length : lo.toNat + 256 * hi.toNat = 4 + (areaOf items).length)
      (raw : ∀ item ∈ items, item.Raw) :
      CfgMessage ([0x06, id, lo, hi] ++ fixed ++ areaOf items) items

def CfgLine (line payload : List Char) : Prop :=
  trim line = "CFG-VALGET - ".toList ++ payload ∨ trim line = "CFG-VALSET - ".toList ++ payload

inductive CfgFile (read : List Char → Option UInt8) :
    List (List Char) → List RcvConfigRecord → Prop where
  | nil : CfgFile read [] []
  | other {line rest items} (skipped : ∀ payload, ¬ CfgLine line payload)
      (tail : CfgFile read rest items) : CfgFile read (line :: rest) items
  | message {line payload bytes own rest items} (head : CfgLine line payload)
      (hex : (tokens payload).mapM read = some bytes) (message : CfgMessage bytes own)
      (tail : CfgFile read rest items) : CfgFile read (line :: rest) (own ++ items)

def Accepts (read : List Char → Option UInt8) (file : List Char)
    (records : List RcvConfigRecord) : Prop :=
  records ≠ [] ∧ CfgFile read (lines file) records

/-! ## Lines -/

theorem cfgPayload_iff {line payload : List Char} :
    cfgPayload line = some payload ↔ CfgLine line payload := by
  constructor
  · intro found
    rw [cfgPayload] at found
    cases place : find " - ".toList (trim line) with
    | none =>
        rw [place] at found
        cases found
    | some separator =>
        have whole := find_eq_some place
        rw [place] at found
        dsimp only at found
        split_ifs at found with other
        cases found
        rcases not_and_or.mp other with name | name
        · left
          rw [not_not.mp name, ← List.append_assoc] at whole
          exact whole
        · right
          rw [not_not.mp name, ← List.append_assoc] at whole
          exact whole
  · intro line
    rw [cfgPayload]
    rcases line with line | line <;> rw [line] <;> rfl

theorem cfgPayload_none {line : List Char} :
    cfgPayload line = none ↔ ∀ payload, ¬ CfgLine line payload := by
  simp only [← cfgPayload_iff]
  exact Option.eq_none_iff_forall_ne_some

/-! ## Bytes -/

theorem parseHexBytes_iff {payload : List Char} {bytes : List UInt8} :
    parseHexBytes payload = .ok bytes ↔ (tokens payload).mapM stoulByte = some bytes := by
  rw [← toOption_eq_some, parseHexBytes, toOption_mapM]
  congr! 3 with token
  rw [stoulByte]
  cases stoull 16 token with
  | error e => rfl
  | ok value =>
      dsimp only [bind, Except.bind]
      split <;> rfl

theorem length_le_areaOf (items : List RcvConfigRecord) :
    items.length ≤ (areaOf items).length := by
  rw [areaOf_length, areaLength, ← List.length_map (fun item : RcvConfigRecord =>
    4 + item.valueBytes.length)]
  refine List.length_le_sum_of_one_le _ fun n mem => ?_
  obtain ⟨item, -, rfl⟩ := List.mem_map.mp mem
  omega

theorem walkRecords_message {items : List RcvConfigRecord} (raw : ∀ item ∈ items, item.Raw)
    {header : List UInt8} (eight : header.length = 8) (earlier : List RcvConfigRecord) :
    walkRecords (header ++ areaOf items) (header ++ areaOf items).length
        (header ++ areaOf items).length 8 earlier =
      .ok (earlier ++ items, (header ++ areaOf items).length) := by
  have enough : items.length ≤ (header ++ areaOf items).length := by
    rw [List.length_append]
    exact (length_le_areaOf items).trans (Nat.le_add_left _ _)
  have walked := walkRecords_area raw header earlier _ enough
  rwa [eight] at walked

theorem payloadLen_toNat (lo hi : UInt8) :
    (lo.toUInt16 ||| (hi.toUInt16 <<< 8)).toNat = lo.toNat + 256 * hi.toNat :=
  u16Of_toNat fun k => [lo, hi].getD k 0

theorem CfgMessage.fields {bytes : List UInt8} {items : List RcvConfigRecord}
    (message : CfgMessage bytes items) :
    8 ≤ bytes.length ∧ bytes.getD 0 0 = 0x06 ∧ (bytes.getD 1 0 = 0x8A ∨ bytes.getD 1 0 = 0x8B) ∧
      bytes.length = (bytes.getD 2 0).toNat + 256 * (bytes.getD 3 0).toNat + 4 ∧
      ∃ header, header.length = 8 ∧ bytes = header ++ areaOf items ∧ ∀ item ∈ items, item.Raw := by
  cases message with
  | @intro id lo hi fixed _ known four length raw =>
      have size : ([0x06, id, lo, hi] ++ fixed ++ areaOf items).length =
          8 + (areaOf items).length := by
        rw [List.length_append, List.length_append, four]
        rfl
      have total : ([0x06, id, lo, hi] ++ fixed ++ areaOf items).length =
          lo.toNat + 256 * hi.toNat + 4 := by
        rw [size, length]
        omega
      exact ⟨by omega, rfl, known, total, [0x06, id, lo, hi] ++ fixed,
        by rw [List.length_append, four]; rfl, rfl, raw⟩

section
variable {line payload : List Char} {bytes : List UInt8} {earlier records : List RcvConfigRecord}

theorem exists_eight {bytes : List UInt8} (eight : 8 ≤ bytes.length) :
    ∃ b0 b1 b2 b3 b4 b5 b6 b7 rest, bytes = b0 :: b1 :: b2 :: b3 :: b4 :: b5 :: b6 :: b7 :: rest := by
  rcases bytes with _ | ⟨b0, _ | ⟨b1, _ | ⟨b2, _ | ⟨b3, _ | ⟨b4, _ | ⟨b5, _ | ⟨b6, _ | ⟨b7, rest⟩⟩⟩⟩⟩⟩⟩⟩
  iterate 8 exact absurd eight (by simp)
  exact ⟨b0, b1, b2, b3, b4, b5, b6, b7, rest, rfl⟩

theorem parseCfgLine_message (cfg : cfgPayload line = some payload)
    (hex : parseHexBytes payload = .ok bytes) :
    parseCfgLine earlier line = .ok records ↔
      ∃ own, records = earlier ++ own ∧ CfgMessage bytes own := by
  constructor
  · intro parsed
    obtain ⟨own, rfl, raw, area⟩ := parseCfgLine_sound parsed
    refine ⟨own, rfl, ?_⟩
    have read : cfgBytes line = some bytes := by
      rw [cfgBytes, cfg, Option.bind_some, hex]
      rfl
    rw [read, Option.getD_some] at area
    rw [parseCfgLine, cfg] at parsed
    dsimp only at parsed
    rw [hex, Run.throwing_ok, Run.ok_bind] at parsed
    split_ifs at parsed with format length
    · omega
    · simp only [not_or, not_and_or, not_not, not_lt] at format
      obtain ⟨eight, family, known⟩ := format
      obtain ⟨b0, b1, b2, b3, b4, b5, b6, b7, rest, rfl⟩ := exists_eight eight
      have front : b0 = 0x06 := family
      have total : rest.length + 8 = (b2.toUInt16 ||| (b3.toUInt16 <<< 8)).toNat + 4 :=
        not_not.mp length
      have tail : areaOf own = rest := area
      rw [payloadLen_toNat] at total
      rw [front, ← tail]
      rw [← tail] at total
      exact .intro known (show [b4, b5, b6, b7].length = 4 from rfl) (by omega) raw
  · rintro ⟨own, rfl, message⟩
    obtain ⟨eight, family, known, size, header, width, rfl, raw⟩ := message.fields
    have walked := walkRecords_message raw width earlier
    rw [← payloadLen_toNat] at size
    rw [parseCfgLine, cfg]
    dsimp only
    rw [hex, Run.throwing_ok, Run.ok_bind, if_neg, if_neg (not_not.mpr size), if_neg, ← size, walked,
      Run.ok_bind]
    · exact if_neg (not_not.mpr rfl)
    · omega
    · rw [not_or, not_or, not_and_or, not_not, not_not, not_not]
      exact ⟨by omega, family, known⟩

end

/-! ## Files -/

theorem parseHexBytes_none {payload : List Char} (none : (tokens payload).mapM stoulByte = none) :
    ∃ e, parseHexBytes payload = .error e := by
  cases parsed : parseHexBytes payload with
  | error e => exact ⟨e, rfl⟩
  | ok bytes => rw [parseHexBytes_iff.mp parsed] at none; cases none

theorem parseCfgLines_iff {fileLines : List (List Char)} {earlier records : List RcvConfigRecord} :
    fileLines.foldlM parseCfgLine earlier = .ok records ↔
      ∃ own, records = earlier ++ own ∧ CfgFile stoulByte fileLines own := by
  induction fileLines generalizing earlier records with
  | nil =>
      constructor
      · intro parsed
        cases parsed
        exact ⟨[], by simp, .nil⟩
      · rintro ⟨own, rfl, file⟩
        cases file
        simp [pure, Except.pure]
  | cons line rest ih =>
      rw [List.foldlM_cons, Run.bind_eq_ok]
      constructor
      · rintro ⟨middle, head, tail⟩
        obtain ⟨others, rfl, file⟩ := ih.mp tail
        cases cfg : cfgPayload line with
        | none =>
            rw [parseCfgLine, cfg] at head
            cases head
            exact ⟨others, rfl, .other (cfgPayload_none.mp cfg) file⟩
        | some payload =>
            cases hex : (tokens payload).mapM stoulByte with
            | none =>
                obtain ⟨e, failed⟩ := parseHexBytes_none hex
                rw [parseCfgLine, cfg] at head
                dsimp only at head
                rw [failed] at head
                cases head
            | some bytes =>
                obtain ⟨own, rfl, message⟩ :=
                  (parseCfgLine_message cfg (parseHexBytes_iff.mpr hex)).mp head
                refine ⟨own ++ others, by simp, ?_⟩
                exact .message (cfgPayload_iff.mp cfg) hex message file
      · rintro ⟨own, rfl, file⟩
        cases file with
        | other skipped file =>
            refine ⟨earlier, ?_, ih.mpr ⟨own, rfl, file⟩⟩
            rw [parseCfgLine, cfgPayload_none.mpr skipped]
            rfl
        | @message _ payload bytes own _ others head hex message file =>
            refine ⟨earlier ++ own, ?_, ih.mpr ⟨others, by simp, file⟩⟩
            exact (parseCfgLine_message (cfgPayload_iff.mpr head) (parseHexBytes_iff.mpr hex)).mpr
              ⟨own, rfl, message⟩

theorem parseUCenterConfig_iff {file : List Char} {records : List RcvConfigRecord} :
    parseUCenterConfig file = .ok records ↔ Accepts stoulByte file records := by
  rw [parseUCenterConfig, Run.bind_eq_ok, Accepts]
  constructor
  · rintro ⟨all, parsed, nonempty⟩
    split_ifs at nonempty with empty
    cases nonempty
    obtain ⟨own, rfl, cfg⟩ := parseCfgLines_iff.mp parsed
    exact ⟨by simpa using empty, cfg⟩
  · rintro ⟨nonempty, cfg⟩
    refine ⟨records, parseCfgLines_iff.mpr ⟨records, rfl, cfg⟩, ?_⟩
    rw [if_neg (by simpa using nonempty)]
    rfl

/-! ## Tokens -/

def PureHex (file : List Char) : Prop :=
  ∀ line ∈ lines file, ∀ payload, CfgLine line payload →
    ∀ token ∈ tokens payload, ∀ c ∈ token, IsHex c

theorem hexByte_eq_stoulByte {token : List Char} (nonempty : token ≠ [])
    (hex : ∀ c ∈ token, IsHex c) : hexByte token = stoulByte token := by
  obtain ⟨digits, all⟩ := Option.isSome_iff_exists.mp (isSome_mapM hex)
  rw [hexByte, stoulByte, stoull_digits (by decide) nonempty all, all, Option.bind_eq_bind,
    Option.bind_some]
  by_cases huge : 2 ^ 64 ≤ ofDigits 16 digits
  · rw [if_pos huge, if_pos (.inr (by omega))]
  · have value : (UInt64.ofNat (ofDigits 16 digits)).toNat = ofDigits 16 digits := by
      rw [UInt64.toNat_ofNat', Nat.mod_eq_of_lt (by omega)]
    have large : UInt64.ofNat (ofDigits 16 digits) > 0xFF ↔ 0xFF < ofDigits 16 digits := by
      rw [gt_iff_lt, UInt64.lt_iff_toNat_lt, value]
      rfl
    rw [if_neg huge]
    dsimp only
    simp only [large, nonempty, false_or]
    split
    · rfl
    · have byte : (UInt64.ofNat (ofDigits 16 digits)).toUInt8 = UInt8.ofNat (ofDigits 16 digits) := by
        rw [← UInt8.toNat_inj, UInt64.toNat_toUInt8, value, UInt8.toNat_ofNat']
      rw [byte]

theorem isHex_of_hexByte {token : List Char} {b : UInt8} (read : hexByte token = some b) :
    ∀ c ∈ token, IsHex c := by
  rw [hexByte, Option.bind_eq_bind, Option.bind_eq_some_iff] at read
  obtain ⟨digits, all, -⟩ := read
  exact mapM_isSome all

theorem hexByte_mapM {payload : List Char} (pure : ∀ token ∈ tokens payload, ∀ c ∈ token, IsHex c) :
    (tokens payload).mapM hexByte = (tokens payload).mapM stoulByte :=
  mapM_congr fun token mem => hexByte_eq_stoulByte
    (ne_of_mem_of_not_mem mem (nil_notMem_tokens payload)) (pure token mem)

theorem cfgFile_hexByte {fileLines : List (List Char)} {records : List RcvConfigRecord} :
    CfgFile hexByte fileLines records ↔ CfgFile stoulByte fileLines records ∧
      ∀ line ∈ fileLines, ∀ payload, CfgLine line payload →
        ∀ token ∈ tokens payload, ∀ c ∈ token, IsHex c := by
  constructor
  · intro file
    induction file with
    | nil => exact ⟨.nil, by simp⟩
    | other skipped tail ih =>
        refine ⟨.other skipped ih.1, fun line mem payload head => ?_⟩
        rcases List.mem_cons.mp mem with rfl | mem
        · exact absurd head (skipped payload)
        · exact ih.2 line mem payload head
    | @message _ payload _ _ _ _ head hex message tail ih =>
        have pure : ∀ token ∈ tokens payload, ∀ c ∈ token, IsHex c := by
          intro token mem
          obtain ⟨b, read⟩ := Option.isSome_iff_exists.mp (mapM_isSome hex token mem)
          exact isHex_of_hexByte read
        refine ⟨.message head (hexByte_mapM pure ▸ hex) message ih.1, fun line mem other line' => ?_⟩
        rcases List.mem_cons.mp mem with rfl | mem
        · have same := (cfgPayload_iff.mpr head).symm.trans (cfgPayload_iff.mpr line')
          cases same
          exact pure
        · exact ih.2 line mem other line'
  · rintro ⟨file, pure⟩
    induction file with
    | nil => exact .nil
    | other skipped tail ih =>
        exact .other skipped (ih fun line mem => pure line (List.mem_cons_of_mem _ mem))
    | message head hex message tail ih =>
        have own := pure _ List.mem_cons_self _ head
        exact .message head (hexByte_mapM own ▸ hex) message
          (ih fun line mem => pure line (List.mem_cons_of_mem _ mem))

theorem accepts_hexByte {file : List Char} {records : List RcvConfigRecord} :
    Accepts hexByte file records ↔ Accepts stoulByte file records ∧ PureHex file := by
  rw [Accepts, Accepts, cfgFile_hexByte, PureHex, and_assoc]

/-! ## Every file is accepted or refused -/

theorem walkRecords_defined {bytes : List UInt8} {payloadEnd : Nat} (within : payloadEnd ≤ bytes.length)
    (fuel offset : Nat) (earlier : List RcvConfigRecord) :
    Run.Defined (walkRecords bytes payloadEnd fuel offset earlier) := by
  induction fuel generalizing offset earlier with
  | zero => exact .ok _
  | succ fuel ih =>
      rw [walkRecords]
      split_ifs with more
      · have key : ∀ k < 4, BytePtr.add (loadAt bytes) offset k = .ok (bytes.getD (offset + k) 0) :=
          fun k below => loadAt_getD (by omega)
        rw [u32_ok key, Run.checked_ok, Run.ok_bind]
        dsimp only
        split_ifs
        · exact .thrown _
        · exact ih _ _
      · exact .ok _

theorem parseCfgLine_defined (earlier : List RcvConfigRecord) (line : List Char) :
    Run.Defined (parseCfgLine earlier line) := by
  rw [parseCfgLine]
  split
  · exact .ok _
  · refine .bind (.throwing _) fun bytes _ => ?_
    dsimp only
    split_ifs with format length
    · exact .thrown _
    · exact .thrown _
    · exact .ok _
    · refine .bind (walkRecords_defined (not_not.mp length).ge _ _ _) fun walked _ => ?_
      split_ifs
      · exact .thrown _
      · exact .ok _

theorem parseCfgLines_defined (earlier : List RcvConfigRecord) (fileLines : List (List Char)) :
    Run.Defined (fileLines.foldlM parseCfgLine earlier) := by
  induction fileLines generalizing earlier with
  | nil => exact .ok _
  | cons line rest ih =>
      rw [List.foldlM_cons]
      exact .bind (parseCfgLine_defined earlier line) fun middle _ => ih middle

theorem parseUCenterConfig_defined (file : List Char) : Run.Defined (parseUCenterConfig file) := by
  refine .bind (parseCfgLines_defined _ _) fun records _ => ?_
  split_ifs
  · exact .thrown _
  · exact .ok _

/-- The file gives the records it spells in hexadecimal digits; if it spells none, it is refused. -/
def ParsedExactly (file : List Char) : Prop :=
  (∀ records, parseUCenterConfig file = .ok records ↔ Accepts hexByte file records) ∧
    ((∀ records, ¬ Accepts hexByte file records) →
      ∃ e, parseUCenterConfig file = .error (.thrown e))

theorem parsedExactly_of_pure {file : List Char}
    (pure : ∀ records, Accepts stoulByte file records → PureHex file) : ParsedExactly file := by
  have exact : ∀ records, parseUCenterConfig file = .ok records ↔ Accepts hexByte file records :=
    fun records => by
      rw [parseUCenterConfig_iff, accepts_hexByte]
      exact ⟨fun accepts => ⟨accepts, pure records accepts⟩, And.left⟩
  refine ⟨exact, fun none => ?_⟩
  rcases parseUCenterConfig_defined file with ⟨records, ran⟩ | thrown
  · exact absurd ((exact records).mp ran) (none records)
  · exact thrown

/-- The tokens that are no hexadecimal digits are what sets the parser apart from its grammar. -/
theorem parsedExactly_iff (file : List Char) : ParsedExactly file ↔
    ∀ records, Accepts stoulByte file records → PureHex file := by
  refine ⟨fun exact records accepts => ?_, parsedExactly_of_pure⟩
  exact (accepts_hexByte.mp ((exact.1 records).mp (parseUCenterConfig_iff.mpr accepts))).2

/-- The last byte of the line is followed by letters that are no digits. -/
def mistypedFile : List Char := "CFG-VALSET - 06 8A 09 00 00 01 00 00 21 00 11 20 04zz".toList

theorem mistyped_accepted :
    parseUCenterConfig mistypedFile = .ok [.raw 0x20110021 [4]] ∧ ¬ ParsedExactly mistypedFile := by
  have ran : parseUCenterConfig mistypedFile = .ok [.raw 0x20110021 [4]] := by decide +kernel
  refine ⟨ran, fun exact => ?_⟩
  have pure := (accepts_hexByte.mp ((exact.1 _).mp ran)).2
  have payload : cfgPayload mistypedFile = some (mistypedFile.drop 13) := by decide +kernel
  have digit := pure mistypedFile (by decide +kernel) _ (cfgPayload_iff.mp payload) "04zz".toList
    (by decide +kernel) 'z' (by decide)
  exact absurd digit (by rw [IsHex]; decide)

end GnssParser
