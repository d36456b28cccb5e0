import RuleVocabulary.Proofs.Answer
import RuleVocabulary.Proofs.Archive.Members
import RuleVocabulary.Proofs.Archive.Written

/-!
# Archives that are cut

Of an archive that is not compressed and can be expanded, only the first bytes are left. They are
refused with one of a few faults (`cutFaults`), or they are expanded into the first entries
(`cut_archive_yields_first_entries`).

Each reader gets a lemma that compares what it makes of some bytes and of the first `n` of them: it
breaks off at the cut, or it passes as many bytes as before. A member whose data are cut is not yet
found to be cut when its contribution is read. That is found when its padding is passed, so the
lemmas for contributions say that these are the same only if the data are within the first `n`
bytes (`readData_take`), and the lemma for a member says it outright (`readMember_take`). A sparse
file is described by blocks in front of its data and takes no more data than its header records
(`SparseState.Fits`).
-/

set_option autoImplicit false

namespace RuleVocabulary.Archive

open RuleVocabulary.Text

variable {bytes : List UInt8} {described : Described} {header : Header} {size offset : Nat}

/-! ## The front and the rest of cut bytes -/

theorem front_take {n : Nat} (long : blockSize ≤ n) :
    (bytes.take n).take blockSize = bytes.take blockSize := by
  rw [List.take_take, Nat.min_eq_left long]

theorem behind_take (n : Nat) :
    (bytes.take n).drop blockSize = (bytes.drop blockSize).take (n - blockSize) :=
  List.drop_take

theorem length_take_of_whole {n : Nat} (whole : blockSize ≤ bytes.length) (long : blockSize ≤ n) :
    blockSize ≤ (bytes.take n).length := by
  rw [List.length_take]
  exact Nat.le_min.mpr ⟨long, whole⟩

theorem length_sub_length_drop {count : Nat} (within : count ≤ bytes.length) :
    bytes.length - (bytes.drop count).length = count := by
  rw [List.length_drop]
  omega

/-! ## Sparse files -/

/-- How many bytes of data pieces take. -/
def takenBy : List SparsePiece → Nat
  | [] => 0
  | piece :: pieces => piece.length + takenBy pieces

theorem takenBy_append (pieces more : List SparsePiece) :
    takenBy (pieces ++ more) = takenBy pieces + takenBy more := by
  induction pieces with
  | nil => exact (Nat.zero_add _).symm
  | cons piece pieces ih =>
      rw [List.cons_append, takenBy, takenBy, ih, Nat.add_assoc]

theorem takenBy_reverse (pieces : List SparsePiece) : takenBy pieces.reverse = takenBy pieces := by
  induction pieces with
  | nil => rfl
  | cons piece pieces ih =>
      rw [List.reverse_cons, takenBy_append, ih, takenBy, takenBy, takenBy, Nat.add_zero,
        Nat.add_comm]

/-- Pieces are filled from the data that they take, whatever comes behind these. -/
theorem fillGaps_take {pieces : List SparsePiece} {count : Nat} (enough : takenBy pieces ≤ count)
    (reached : Nat) (data : List UInt8) :
    fillGaps reached pieces (data.take count) = fillGaps reached pieces data := by
  induction pieces generalizing count reached data with
  | nil => rfl
  | cons piece pieces ih =>
      rw [takenBy] at enough
      have own : (data.take count).take piece.length = data.take piece.length := by
        rw [List.take_take, Nat.min_eq_left (by omega)]
      rw [fillGaps, fillGaps, own, List.drop_take, ih (by omega)]

/-- A description of a sparse file that takes no more than the data there are. -/
structure SparseState.Fits (size : Nat) (state : SparseState) : Prop where
  taken : takenBy state.pieces = state.taken
  within : state.taken ≤ size

theorem fits_of_addPiece {state after : SparseState} {piece : List UInt8} (fits : state.Fits size)
    (done : addPiece size state piece = .ok after) : after.Fits size := by
  unfold addPiece at done
  obtain ⟨piece?, -, added⟩ := bind_eq_ok_iff.mp done
  cases piece? with
  | none =>
      obtain rfl := Except.ok.inj added
      exact fits
  | some piece =>
      simp only at added
      split at added
      · cases added
      split at added
      · cases added
      split at added
      · cases added
      split at added
      · cases added
      · rename_i within
        obtain rfl := Except.ok.inj added
        refine ⟨?_, Nat.le_of_not_lt within⟩
        rw [takenBy, fits.taken, Nat.add_comm]

theorem fits_of_foldlM {state after : SparseState} {pieces : List (List UInt8)}
    (fits : state.Fits size) (done : pieces.foldlM (addPiece size) state = .ok after) :
    after.Fits size := by
  induction pieces generalizing state with
  | nil =>
      obtain rfl := Except.ok.inj done
      exact fits
  | cons piece pieces ih =>
      rw [List.foldlM_cons] at done
      obtain ⟨between, added, others⟩ := bind_eq_ok_iff.mp done
      exact ih (fits_of_addPiece fits added) others

/-! ## What a cut makes of a reader -/

/-- What is wrong with bytes that end too early. -/
def cutFaults : List TarFault :=
  [.partialBlock, .endInSkip, .describedMemberMissing, .sparseExtensionMissing]

/-- Whether a reader misses bytes. -/
def BreaksOff {α : Type} (answer : Except TarFault α) : Prop :=
  ∃ fault ∈ cutFaults, answer = .error fault

theorem BreaksOff.bind {α β : Type} {answer : Except TarFault α} (breaks : BreaksOff answer)
    (next : α → Except TarFault β) : BreaksOff (answer >>= next) := by
  obtain ⟨fault, cut, rfl⟩ := breaks
  exact ⟨fault, cut, rfl⟩

theorem addBlocks_of_last (fuel : Nat) (state : SparseState) (bytes : List UInt8) :
    addBlocks none size fuel false state bytes = .ok (state, bytes) := by
  cases fuel <;> rfl

theorem addBlocks_of_whole (fuel : Nat) (state : SparseState)
    (whole : blockSize ≤ bytes.length) :
    addBlocks none size (fuel + 1) true state bytes =
      (sparseFields 21 0 (bytes.take blockSize)).foldlM (addPiece size) state >>= fun state =>
        addBlocks none size fuel ((bytes.take blockSize)[504]? = some 1) state
          (bytes.drop blockSize) := by
  simp only [addBlocks, List.isEmpty_iff, front_ne_nil whole, length_front whole, Nat.lt_irrefl,
    ↓reduceIte]

theorem breaksOff_addBlocks (fuel : Nat) (state : SparseState) (short : bytes.length < blockSize) :
    BreaksOff (addBlocks none size fuel true state bytes) := by
  cases fuel with
  | zero => exact ⟨_, by decide, rfl⟩
  | succ fuel =>
      have block : bytes.take blockSize = bytes := List.take_of_length_le (Nat.le_of_lt short)
      by_cases empty : bytes = []
      · refine ⟨.sparseExtensionMissing, by decide, ?_⟩
        rw [empty]
        rfl
      · refine ⟨.partialBlock, by decide, ?_⟩
        simp only [addBlocks, block, List.isEmpty_iff, empty, short, ↓reduceIte]
        rfl

theorem addBlocks_take_of_last (state : SparseState) :
    ∃ count ≤ bytes.length, bytes = bytes.drop count ∧ ∀ fuel n,
      BreaksOff (addBlocks none size fuel false state (bytes.take n)) ∨
        count ≤ n ∧ addBlocks none size fuel false state (bytes.take n) =
          .ok (state, (bytes.take n).drop count) :=
  ⟨0, Nat.zero_le _, rfl, fun fuel _ => .inr ⟨Nat.zero_le _, addBlocks_of_last fuel state _⟩⟩

/-- The blocks behind a header are read alike from cut bytes, or they are found to be cut. -/
theorem addBlocks_take {fuel : Nat} {more : Bool} {state after : SparseState} {rest : List UInt8}
    (done : addBlocks none size fuel more state bytes = .ok (after, rest)) (fits : state.Fits size) :
    after.Fits size ∧ ∃ count ≤ bytes.length, rest = bytes.drop count ∧ ∀ fuel n,
      BreaksOff (addBlocks none size fuel more state (bytes.take n)) ∨
        count ≤ n ∧ addBlocks none size fuel more state (bytes.take n) =
          .ok (after, (bytes.take n).drop count) := by
  induction fuel generalizing more state bytes with
  | zero =>
      cases more with
      | true => cases done
      | false =>
          rw [addBlocks_of_last] at done
          cases done
          exact ⟨fits, addBlocks_take_of_last after⟩
  | succ fuel ih =>
      cases more with
      | false =>
          rw [addBlocks_of_last] at done
          cases done
          exact ⟨fits, addBlocks_take_of_last after⟩
      | true =>
          by_cases whole : blockSize ≤ bytes.length
          · rw [addBlocks_of_whole fuel state whole] at done
            obtain ⟨between, added, others⟩ := bind_eq_ok_iff.mp done
            obtain ⟨fit, count, within, rfl, cut⟩ := ih others (fits_of_foldlM fits added)
            rw [List.length_drop] at within
            refine ⟨fit, blockSize + count, by omega, ?_, ?_⟩
            · rw [List.drop_drop]
            · intro fuel n
              by_cases long : blockSize ≤ n
              · cases fuel with
                | zero => exact .inl ⟨_, by decide, rfl⟩
                | succ fuel =>
                    rw [addBlocks_of_whole fuel state (length_take_of_whole whole long),
                      front_take long, behind_take, added, ← List.drop_drop, behind_take]
                    exact (cut fuel (n - blockSize)).imp_right fun ⟨passed, same⟩ =>
                      ⟨by omega, same⟩
              · refine .inl (breaksOff_addBlocks fuel state ?_)
                exact Nat.lt_of_le_of_lt (List.length_take_le n bytes) (Nat.lt_of_not_le long)
          · obtain ⟨fault, -, broken⟩ :=
              @breaksOff_addBlocks bytes size (fuel + 1) state (Nat.lt_of_not_le whole)
            rw [broken] at done
            cases done

/-- Checks what all descriptions of a sparse file amount to, and fills it from its data. -/
def fillSparse (header : Header) (size : Nat) (read : SparseState × List UInt8) :
    Except TarFault (List UInt8 × List UInt8) := do
  let realSize ← quantity
    ("real_size for " ++ Utf8.decodeLossy (untilZero (field 297 32 header.block)) ++ ":" ++
      Utf8.decodeLossy (untilZero (field 265 32 header.block)))
    (field 483 12 header.block)
  if read.1.reached ≠ realSize then .error .sparseRealSizeMismatch
  else if read.1.taken < size then .error .sparseSizeMismatch
  else return (fillGaps 0 read.1.pieces.reverse read.2, read.2)

theorem sparseContents_eq (header : Header) (size : Nat) (bytes : List UInt8) :
    sparseContents none header size bytes =
      if header.isGnu then
        (sparseFields 4 386 header.block).foldlM (addPiece size) ⟨0, 0, []⟩ >>= fun state =>
          addBlocks none size (bytes.length / blockSize + 1) (header.block[482]? = some 1) state
            bytes >>= fillSparse header size
      else .error .sparseOutsideGnu := by
  unfold sparseContents
  cases header.isGnu <;> rfl

/-- Whether a sparse file can be filled does not depend on the bytes that it is filled from. -/
theorem fillSparse_of_ok {state : SparseState} {rest : List UInt8}
    {result : List UInt8 × List UInt8} (done : fillSparse header size (state, rest) = .ok result)
    (other : List UInt8) :
    fillSparse header size (state, other) = .ok (fillGaps 0 state.pieces.reverse other, other) := by
  obtain ⟨realSize, recorded, done⟩ := bind_eq_ok_iff.mp done
  refine bind_eq_ok_iff.mpr ⟨realSize, recorded, ?_⟩
  split at done
  · cases done
  · split at done
    · cases done
    · rename_i real all
      rw [if_neg real, if_neg all]
      rfl

/-- A sparse file is described alike in cut bytes, and it has the same contents unless its data are
cut. -/
theorem sparseContents_take {contents rest : List UInt8}
    (done : sparseContents none header size bytes = .ok (contents, rest)) :
    ∃ count ≤ bytes.length, rest = bytes.drop count ∧ ∀ n,
      BreaksOff (sparseContents none header size (bytes.take n)) ∨
        ∃ found, count ≤ n ∧ sparseContents none header size (bytes.take n) =
            .ok (found, (bytes.take n).drop count) ∧
          (count + size ≤ n → found = contents) := by
  simp only [sparseContents_eq] at done ⊢
  split at done
  · rename_i gnu
    simp only [if_pos gnu]
    obtain ⟨state, started, done⟩ := bind_eq_ok_iff.mp done
    obtain ⟨⟨after, behind⟩, blocks, filled⟩ := bind_eq_ok_iff.mp done
    have empty : SparseState.Fits size ⟨0, 0, []⟩ := ⟨rfl, Nat.zero_le _⟩
    obtain ⟨fits, count, within, rfl, cut⟩ := addBlocks_take blocks (fits_of_foldlM empty started)
    have refilled := fillSparse_of_ok filled
    rw [refilled (bytes.drop count)] at filled
    cases filled
    refine ⟨count, within, rfl, ?_⟩
    intro n
    rw [started]
    rcases cut ((bytes.take n).length / blockSize + 1) n with breaks | ⟨passed, same⟩
    · exact .inl (breaks.bind (fillSparse header size))
    · refine .inr ⟨fillGaps 0 after.pieces.reverse ((bytes.take n).drop count), passed, ?_, ?_⟩
      · exact bind_eq_ok_iff.mpr ⟨state, rfl, bind_eq_ok_iff.mpr ⟨_, same, refilled _⟩⟩
      · intro complete
        have taken := fits.within
        rw [List.drop_take, fillGaps_take]
        rw [takenBy_reverse, fits.taken]
        omega
  · cases done

/-! ## Members -/

/-- All but sparse files contribute what their data say, whatever comes behind these, or they are
refused with any data. -/
theorem readData_of_plain (described : Described) (size : Nat) (plain : header.role ≠ .sparseFile) :
    (∃ fault, ∀ bytes, readData none described header size bytes = .error fault) ∨
      ∃ contribution : List UInt8 → Option Entry × Described, ∀ bytes,
        readData none described header size bytes =
          .ok ((contribution (bytes.take size)).1, (contribution (bytes.take size)).2, bytes) := by
  unfold readData
  cases role : header.role with
  | longName =>
      cases described.longName with
      | some name => exact .inl ⟨_, fun _ => rfl⟩
      | none => exact .inr ⟨fun data => (none, { described with longName := some data }), fun _ => rfl⟩
  | longLink =>
      cases described.longLink with
      | some name => exact .inl ⟨_, fun _ => rfl⟩
      | none => exact .inr ⟨fun data => (none, { described with longLink := some data }), fun _ => rfl⟩
  | extensions =>
      cases described.extensions with
      | some name => exact .inl ⟨_, fun _ => rfl⟩
      | none =>
          exact .inr ⟨fun data => (none, { described with extensions := some data }), fun _ => rfl⟩
  | sparseFile => exact absurd role plain
  | directory => exact .inr ⟨fun _ => (none, .nothing), fun _ => rfl⟩
  | file => exact .inr ⟨fun data => (some ⟨entryPath described header, data⟩, .nothing), fun _ => rfl⟩

/-- A member contributes the same in cut bytes, unless its data are cut. -/
theorem readData_take {entry : Option Entry} {next : Described} {data : List UInt8}
    (done : readData none described header size bytes = .ok (entry, next, data)) :
    ∃ count ≤ bytes.length, data = bytes.drop count ∧ ∀ n,
      BreaksOff (readData none described header size (bytes.take n)) ∨
        ∃ found following, count ≤ n ∧ readData none described header size (bytes.take n) =
            .ok (found, following, (bytes.take n).drop count) ∧
          (count + size ≤ n → found = entry ∧ following = next) := by
  by_cases sparse : header.role = .sparseFile
  · have filling : ∀ bytes, readData none described header size bytes =
        sparseContents none header size bytes >>= fun read =>
          .ok (some ⟨entryPath described header, read.1⟩, .nothing, read.2) := by
      intro bytes
      simp only [readData, sparse]
      rfl
    rw [filling] at done
    obtain ⟨⟨contents, rest⟩, filled, done⟩ := bind_eq_ok_iff.mp done
    cases done
    obtain ⟨count, within, same, cut⟩ := sparseContents_take filled
    refine ⟨count, within, same, ?_⟩
    intro n
    rw [filling]
    rcases cut n with breaks | ⟨found, passed, read, complete⟩
    · exact .inl (breaks.bind _)
    · refine .inr ⟨some ⟨entryPath described header, found⟩, .nothing, passed, ?_, ?_⟩
      · exact bind_eq_ok_iff.mpr ⟨_, read, rfl⟩
      · intro long
        rw [complete long]
        exact ⟨rfl, rfl⟩
  · rcases readData_of_plain described size sparse with ⟨fault, refused⟩ | ⟨contribution, read⟩
    · rw [refused] at done
      cases done
    · rw [read] at done
      cases done
      refine ⟨0, Nat.zero_le _, rfl, ?_⟩
      intro n
      refine .inr ⟨_, _, Nat.zero_le _, read _, ?_⟩
      intro long
      rw [List.take_take, Nat.min_eq_left (by omega)]
      exact ⟨rfl, rfl⟩

/-- **A member is read alike from cut bytes, or they are found to be cut.** -/
theorem readMember_take {passed : Passed} (whole : blockSize ≤ bytes.length)
    (done : readMember none described offset bytes = .ok passed) :
    ∃ count, blockSize ≤ count ∧ count ≤ bytes.length ∧ passed.rest = bytes.drop count ∧
      ∀ n, blockSize ≤ n →
        BreaksOff (readMember none described offset (bytes.take n)) ∨
          count ≤ n ∧ readMember none described offset (bytes.take n) =
            .ok { passed with rest := (bytes.take n).drop count } := by
  obtain ⟨size, sized, done⟩ := bind_eq_ok_iff.mp done
  obtain ⟨⟨entry, next, data⟩, read, done⟩ := bind_eq_ok_iff.mp done
  obtain ⟨count, within, rfl, cut⟩ := readData_take read
  rw [List.length_drop] at within
  rcases Nat.lt_or_ge ((bytes.drop blockSize).drop count).length (paddedSize size) with
    short | complete
  · rw [passData_of_short short] at done
    cases done
  · rw [passData_of_complete complete] at done
    obtain rfl := Except.ok.inj done
    rw [List.length_drop, List.length_drop] at complete
    refine ⟨blockSize + count + paddedSize size, by omega, by omega, ?_, ?_⟩
    · simp only [List.drop_drop]
    · intro n long
      have step : readMember none described offset (bytes.take n) =
          readData none described ⟨bytes.take blockSize⟩ size
            ((bytes.drop blockSize).take (n - blockSize)) >>= passData none size := by
        rw [readMember, front_take long, behind_take, sized]
        rfl
      rw [step]
      rcases cut (n - blockSize) with breaks | ⟨found, following, passed, same, alike⟩
      · exact .inl (breaks.bind _)
      · rw [same]
        rcases Nat.lt_or_ge (((bytes.drop blockSize).take (n - blockSize)).drop count).length
          (paddedSize size) with short | complete
        · exact .inl ⟨.endInSkip, by decide, passData_of_short short⟩
        · have own := size_le_paddedSize size
          have last := (passData_of_complete complete : passData none size (found, following, _) = _)
          rw [List.length_drop, List.length_take] at complete
          obtain ⟨rfl, rfl⟩ := alike (by omega)
          refine .inr ⟨by omega, last.trans ?_⟩
          simp only [← behind_take, List.drop_drop]

/-! ## Archives -/

/-- Whether a reader yields the first of some entries, or misses bytes. -/
def YieldsFirst (answer : Except TarFault (List Entry)) (entries : List Entry) : Prop :=
  BreaksOff answer ∨ ∃ found, answer = .ok found ∧ found <+: entries

theorem YieldsFirst.behind {answer : Except TarFault (List Entry)} {entries : List Entry}
    (yields : YieldsFirst answer entries) (front : List Entry) :
    YieldsFirst (answer.map (front ++ ·)) (front ++ entries) := by
  rcases yields with ⟨fault, missed, rfl⟩ | ⟨found, rfl, first⟩
  · exact .inl ⟨fault, missed, rfl⟩
  · exact .inr ⟨front ++ found, rfl, (List.prefix_append_right_inj _).mpr first⟩

/-- **From cut bytes come the first entries, or they are found to be cut.** -/
theorem readMembers_take {fuel : Nat} {entries : List Entry}
    (done : readMembers none fuel described offset bytes = .ok entries) {n cutFuel : Nat}
    (enough : (bytes.take n).length < cutFuel) :
    YieldsFirst (readMembers none cutFuel described offset (bytes.take n)) entries := by
  induction fuel generalizing described offset bytes n cutFuel entries with
  | zero => cases done
  | succ fuel ih =>
      obtain ⟨cutFuel, rfl⟩ : ∃ less, cutFuel = less + 1 := ⟨cutFuel - 1, by omega⟩
      by_cases empty : bytes.take n = []
      · rw [empty, readMembers_nil]
        split
        · exact .inr ⟨[], rfl, List.nil_prefix⟩
        · exact .inl ⟨_, by decide, rfl⟩
      by_cases short : (bytes.take n).length < blockSize
      · rw [readMembers_of_short empty short]
        exact .inl ⟨_, by decide, rfl⟩
      -- The cut is behind the first block, so both readers see the same header.
      rw [List.length_take] at short
      have long : blockSize ≤ n := by omega
      have whole : blockSize ≤ bytes.length := by omega
      have cutWhole := length_take_of_whole whole long
      cases zero : isZero (bytes.take blockSize) with
      | true =>
          rw [readMembers_of_zero whole zero] at done
          rw [readMembers_of_zero cutWhole (by rw [front_take long, zero]), done]
          exact .inr ⟨entries, rfl, List.prefix_refl _⟩
      | false =>
          rw [readMembers_of_member whole zero] at done
          rw [readMembers_of_member cutWhole (by rw [front_take long, zero])]
          cases read : readMember none described offset bytes with
          | error fault =>
              rw [read] at done
              cases done
          | ok passed =>
              simp only [read] at done
              obtain ⟨others, behind, rfl⟩ := map_eq_ok_iff.mp done
              obtain ⟨count, block, within, rest, cut⟩ := readMember_take whole read
              rcases cut n long with ⟨fault, missed, broken⟩ | ⟨reached, same⟩
              · rw [broken]
                exact .inl ⟨fault, missed, rfl⟩
              · have reachable : count ≤ (bytes.take n).length := by
                  rw [List.length_take]
                  omega
                have shorter : ((bytes.drop count).take (n - count)).length < cutFuel := by
                  have positive := blockSize_pos
                  rw [List.length_take, List.length_drop]
                  rw [List.length_take] at enough
                  omega
                rw [rest, length_sub_length_drop within] at behind
                simp only [same, length_sub_length_drop reachable]
                rw [List.drop_take]
                exact (ih behind shorter).behind passed.entry.toList

/-- **The first bytes of an archive are expanded into the first entries, or they are refused.** -/
theorem cut_archive_yields_first_entries (archive : Archive) (entries : List Entry)
    (plain : ¬ Gzip.magic <+: archive.bytes) (expanded : archive.expand = .ok entries) (n : Nat) :
    (∃ fault ∈ cutFaults, Archive.expand ⟨archive.label, archive.bytes.take n⟩ =
        .error (.archiveRead (archive.label ++ ": " ++ fault.message))) ∨
      ∃ found, Archive.expand ⟨archive.label, archive.bytes.take n⟩ = .ok found ∧
        found <+: entries := by
  have whole : archive.isCompressed = false := not_compressed_iff.mpr plain
  have cut : Archive.isCompressed ⟨archive.label, archive.bytes.take n⟩ = false := by
    refine not_compressed_iff.mpr ?_
    intro looks
    exact plain (looks.trans (List.take_prefix n archive.bytes))
  rw [expand_of_plain whole] at expanded
  rw [expand_of_plain cut]
  cases read : readMembers none (archive.bytes.length + 1) .nothing 0 archive.bytes with
  | error fault =>
      rw [read] at expanded
      cases expanded
  | ok all =>
      rw [read] at expanded
      obtain rfl := Except.ok.inj expanded
      rcases readMembers_take read (Nat.lt_succ_self (archive.bytes.take n).length) with
        ⟨fault, missed, broken⟩ | ⟨found, same, first⟩
      · rw [broken]
        exact .inl ⟨fault, missed, rfl⟩
      · rw [same]
        exact .inr ⟨found, rfl, first⟩

theorem sample_is_cut :
    ¬ Gzip.magic <+: write sample ∧
      Archive.expand ⟨"sample", write sample⟩ = .ok [⟨"com/T", [0x7B, 0x7D]⟩, ⟨"com/T", []⟩] ∧
      ((∃ fault ∈ cutFaults, Archive.expand ⟨"sample", (write sample).take 1536⟩ =
          .error (.archiveRead ("sample" ++ ": " ++ fault.message))) ∨
        ∃ found, Archive.expand ⟨"sample", (write sample).take 1536⟩ = .ok found ∧
          found <+: [⟨"com/T", [0x7B, 0x7D]⟩, ⟨"com/T", []⟩]) := by
  have plain : ¬ Gzip.magic <+: write sample := by decide +kernel
  have expanded : Archive.expand ⟨"sample", write sample⟩ =
      .ok [⟨"com/T", [0x7B, 0x7D]⟩, ⟨"com/T", []⟩] := by
    decide +kernel
  exact ⟨plain, expanded,
    cut_archive_yields_first_entries ⟨"sample", write sample⟩ _ plain expanded 1536⟩

/-- A cut behind the first file leaves that file. -/
example : Archive.expand ⟨"sample", (write sample).take 1536⟩ =
    .ok [⟨"com/T", [0x7B, 0x7D]⟩] := by
  decide +kernel

/-- A cut in the padding of the first file leaves nothing. -/
example : Archive.expand ⟨"sample", (write sample).take 1535⟩ =
    .error (.archiveRead "sample: unexpected EOF during skip") := by
  decide +kernel

end RuleVocabulary.Archive
