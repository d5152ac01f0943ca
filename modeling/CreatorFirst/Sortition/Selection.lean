import CreatorFirst.Sortition.Steps

/-!
# The draw

What the sortition records for a House is the partial Fisher-Yates shuffle of its population, with
the draws that the hash of the session's random word decides. The sparse array of the storage
represents the dense one after as many steps as there are recorded ranks.
-/

namespace CreatorFirst.Sortition

open Chain Relation

variable {P : Primitives} {d : Deployment}

/-! ## The draw of one House -/

/-- The part of the storage that the draw of one House of a session reads and writes. -/
structure Draw where
  doesExist : Bool
  fulfilled : Bool
  randomWord : Uint 256
  population : Uint 32
  primarySeats : Uint 32
  alternateSeats : Uint 32
  count : Uint 32
  values : Uint 32 → Uint 32
  index : Uint 32 → Uint 32

def State.drawOf (s : State) (sessionId : Uint 256) (house : Uint 8) : Draw where
  doesExist := (s.rounds sessionId).doesExist
  fulfilled := (s.rounds sessionId).randomnessFulfilled
  randomWord := (s.rounds sessionId).randomWord
  population := (s.houseConfigs sessionId house).populationSize
  primarySeats := (s.houseConfigs sessionId house).primarySeats
  alternateSeats := (s.houseConfigs sessionId house).alternateSeats
  count := (s.houseConfigs sessionId house).selectedCount
  values := s.shuffleValues sessionId house
  index := s.selectedIndexPlusOne sessionId house

/-- The sparse array by natural positions. -/
def Draw.sparse (D : Draw) (i : ℕ) : ℕ := D.values (Uint.truncate 32 i)

/-- The dense shuffle of the population after some steps. -/
def Draw.shuffle (P : Primitives) (sessionId : Uint 256) (house : Uint 8) (D : Draw) (steps : ℕ) :
    Vector ℕ D.population :=
  Shuffle.dense D.population (fun rank ↦ drawHash P D.randomWord sessionId house rank) steps

/-- The ways in which an operation can change the draw of one House. -/
inductive DrawChange (P : Primitives) (sessionId : Uint 256) (house : Uint 8) (s : State) :
    Draw → Prop
  | same : DrawChange P sessionId house s (s.drawOf sessionId house)
  | created (population primarySeats alternateSeats : Uint 32)
      (hnew : (s.rounds sessionId).doesExist = false)
      (hvalid : ValidHouse population primarySeats alternateSeats) :
      DrawChange P sessionId house s
        { s.drawOf sessionId house with
          doesExist := true, fulfilled := false, randomWord := 0
          population, primarySeats, alternateSeats
          count := 0 }
  | fulfilled (randomWord : Uint 256) (hexists : (s.rounds sessionId).doesExist = true)
      (hnew : (s.rounds sessionId).randomnessFulfilled = false) :
      DrawChange P sessionId house s
        { s.drawOf sessionId house with randomWord, fulfilled := true }
  | selected (position candidateIndex encodedValue encodedIndex selectedCount : Uint 32)
      (h : Selects P sessionId house s position candidateIndex encodedValue encodedIndex
        selectedCount) :
      DrawChange P sessionId house s
        { s.drawOf sessionId house with
          values := Function.update (s.shuffleValues sessionId house) position encodedValue
          index := Function.update (s.selectedIndexPlusOne sessionId house)
            (s.houseConfigs sessionId house).selectedCount encodedIndex
          count := selectedCount }

theorem withRound_drawOf {s : State} {params : RoundParams} {house : Uint 8}
    (hhouse : IsHouse house) (sessionId : Uint 256) :
    (s.withRound params).drawOf sessionId house =
      if sessionId = params.sessionId then
        { s.drawOf sessionId house with
          doesExist := true, fulfilled := false, randomWord := 0
          population := (params.config house).populationSize
          primarySeats := (params.config house).primarySeats
          alternateSeats := (params.config house).alternateSeats
          count := 0 }
      else s.drawOf sessionId house := by
  have hcount : (params.config house).selectedCount = 0 := by
    unfold RoundParams.config
    split <;> rfl
  by_cases hid : sessionId = params.sessionId
  · subst hid
    simp [State.drawOf, State.withRound, hhouse, hcount, RoundParams.round]
  · simp [State.drawOf, State.withRound, hid]

theorem withWord_drawOf (s : State) (sessionId₀ randomWord sessionId : Uint 256) (house : Uint 8) :
    (s.withWord sessionId₀ randomWord).drawOf sessionId house =
      if sessionId = sessionId₀ then
        { s.drawOf sessionId house with randomWord, fulfilled := true }
      else s.drawOf sessionId house := by
  by_cases hid : sessionId = sessionId₀
  · subst hid
    simp [State.drawOf, State.withWord]
  · simp [State.drawOf, State.withWord, hid]

theorem withSelection_drawOf (s : State) (sessionId₀ : Uint 256) (house₀ : Uint 8)
    (position encodedValue encodedIndex selectedCount : Uint 32) (sessionId : Uint 256)
    (house : Uint 8) :
    (s.withSelection sessionId₀ house₀ position encodedValue encodedIndex selectedCount).drawOf
        sessionId house =
      if sessionId = sessionId₀ ∧ house = house₀ then
        { s.drawOf sessionId house with
          values := Function.update (s.shuffleValues sessionId house) position encodedValue
          index := Function.update (s.selectedIndexPlusOne sessionId house)
            (s.houseConfigs sessionId house).selectedCount encodedIndex
          count := selectedCount }
      else s.drawOf sessionId house := by
  by_cases hid : sessionId = sessionId₀ ∧ house = house₀
  · obtain ⟨rfl, rfl⟩ := hid
    simp [State.drawOf, State.withSelection, update₃, update₂]
  · have hconfig := update₂_apply s.houseConfigs sessionId₀ house₀
      { s.houseConfigs sessionId₀ house₀ with selectedCount } sessionId house
    have hvalues : update₃ s.shuffleValues sessionId₀ house₀ position encodedValue sessionId house =
        s.shuffleValues sessionId house := by
      funext i
      rw [update₃_apply, if_neg fun h ↦ hid ⟨h.1, h.2.1⟩]
    have hindex : update₃ s.selectedIndexPlusOne sessionId₀ house₀
        (s.houseConfigs sessionId₀ house₀).selectedCount encodedIndex sessionId house =
          s.selectedIndexPlusOne sessionId house := by
      funext i
      rw [update₃_apply, if_neg fun h ↦ hid ⟨h.1, h.2.1⟩]
    rw [if_neg hid] at hconfig
    simp only [State.drawOf, State.withSelection, hconfig, hvalues, hindex, if_neg hid]

theorem withAlternate_drawOf (s : State) (sessionId₀ : Uint 256) (house₀ : Uint 8)
    (limit : Uint 32) (sessionId : Uint 256) (house : Uint 8) :
    (s.withAlternate sessionId₀ house₀ limit).drawOf sessionId house =
      s.drawOf sessionId house := by
  by_cases hid : sessionId = sessionId₀ ∧ house = house₀
  · obtain ⟨rfl, rfl⟩ := hid
    simp [State.drawOf, State.withAlternate]
  · simp only [State.drawOf, State.withAlternate, update₂_apply, if_neg hid]

theorem Effect.draw_change {b : Block} {sender : Address} {op : SortitionOp} {s s' : System}
    (h : Effect P d b sender s op s') (sessionId : Uint 256) {house : Uint 8}
    (hhouse : IsHouse house) :
    DrawChange P sessionId house s.sortition (s'.sortition.drawOf sessionId house) := by
  cases h with
  | access | claimSeat => exact .same
  | createRound params _ hcreates =>
    rw [withRound_drawOf hhouse]
    split
    · next hid => exact .created _ _ _ (hid ▸ hcreates.not_exists) (hcreates.config_valid house)
    · exact .same
  | fulfillRandomness requestId randomWord hfulfils =>
    rw [withWord_drawOf]
    split
    · next hid =>
      exact .fulfilled randomWord (hid ▸ hfulfils.round_exists) (hid ▸ hfulfils.not_fulfilled)
    · exact .same
  | finalizeNextSelection sessionId₀ house₀ position candidateIndex value index count hselects =>
    rw [withSelection_drawOf]
    split
    · next hid =>
      obtain ⟨rfl, rfl⟩ := hid
      exact .selected position candidateIndex value index count hselects
    · exact .same
  | activateNextAlternate sessionId₀ house₀ _ limit =>
    rw [withAlternate_drawOf]
    exact .same

/-! ## The storage represents the shuffle -/

/-- The storage of one House holds the shuffle after `count` steps: the dealt entries as recorded
indices, the others in the sparse array. -/
structure Drawn (P : Primitives) (sessionId : Uint 256) (house : Uint 8) (D : Draw) : Prop where
  seats_le : (D.primarySeats : ℕ) + D.alternateSeats ≤ D.population
  count_le : (D.count : ℕ) ≤ D.primarySeats + D.alternateSeats
  fulfilled_exists : D.fulfilled = true → D.doesExist = true
  unfulfilled : D.fulfilled = false → D.count = 0
  blank : D.count = 0 → ∀ i, D.values i = 0
  represents : Shuffle.Represents D.sparse (D.shuffle P sessionId house D.count) D.count
  index_eq : ∀ (rank : Uint 32) (h : (rank : ℕ) < D.population), rank < D.count →
    (D.index rank : ℕ) = (D.shuffle P sessionId house D.count)[(rank : ℕ)] + 1
  index_blank : ∀ rank, D.count ≤ rank → D.index rank = 0

section

variable {sessionId : Uint 256} {house : Uint 8} {D : Draw}

/-- Before the first selection nothing has been written. -/
theorem drawn_of_blank (hseats : (D.primarySeats : ℕ) + D.alternateSeats ≤ D.population)
    (hfulfilled : D.fulfilled = true → D.doesExist = true) (hcount : D.count = 0)
    (hvalues : ∀ i, D.values i = 0) (hindex : ∀ rank, D.index rank = 0) :
    Drawn P sessionId house D where
  seats_le := hseats
  count_le := hcount ▸ Nat.zero_le _
  fulfilled_exists := hfulfilled
  unfulfilled _ := hcount
  blank _ := hvalues
  represents := by
    rw [hcount]
    exact Shuffle.represents_zero.congr fun i _ ↦ by simp [Draw.sparse, hvalues]
  index_eq rank _ h := absurd (hcount ▸ h) (Fin.not_lt_zero rank)
  index_blank rank _ := hindex rank

theorem drawn_initial : Drawn P sessionId house ((initialState P d).drawOf sessionId house) :=
  drawn_of_blank le_rfl (fun h ↦ by cases h) rfl (fun _ ↦ rfl) fun _ ↦ rfl

theorem Drawn.unstarted (hD : Drawn P sessionId house D) (h : D.fulfilled = false) :
    D.count = 0 ∧ (∀ i, D.values i = 0) ∧ ∀ rank, D.index rank = 0 := by
  have hcount := hD.unfulfilled h
  exact ⟨hcount, hD.blank hcount, fun rank ↦ hD.index_blank rank (hcount ▸ Fin.zero_le rank)⟩

/-- Writing one cell of the storage is writing one entry of the sparse array. -/
theorem sparse_update (values : Uint 32 → Uint 32) (position value : Uint 32) (v : ℕ)
    (hvalue : (value : ℕ) = v + 1) {i : ℕ} (hi : i < 2 ^ 32) :
    (Function.update values position value (Uint.truncate 32 i) : ℕ) =
      Shuffle.write (fun j ↦ values (Uint.truncate 32 j)) position v i := by
  have htruncate : (Uint.truncate 32 i : ℕ) = i := Uint.truncate_of_lt hi
  by_cases h : i = position
  · subst h
    have hposition : Uint.truncate 32 (position : ℕ) = position := Fin.ext htruncate
    simp [Shuffle.write, hposition, hvalue]
  · have hposition : Uint.truncate 32 i ≠ position := by
      intro heq
      rw [heq] at htruncate
      exact h htruncate.symm
    simp [Shuffle.write, h, hposition]

/-- One selection is one step of the shuffle. -/
theorem Drawn.selected {s : State} {position candidateIndex encodedValue encodedIndex
    selectedCount : Uint 32} (hD : Drawn P sessionId house (s.drawOf sessionId house))
    (h : Selects P sessionId house s position candidateIndex encodedValue encodedIndex
      selectedCount) :
    Drawn P sessionId house
      { s.drawOf sessionId house with
        values := Function.update (s.shuffleValues sessionId house) position encodedValue
        index := Function.update (s.selectedIndexPlusOne sessionId house)
          (s.houseConfigs sessionId house).selectedCount encodedIndex
        count := selectedCount } where
  seats_le := hD.seats_le
  count_le := by
    have hmore := h.unfinished
    have hcount := h.count_eq
    change (selectedCount : ℕ) ≤ _
    rw [hcount]
    exact hmore
  fulfilled_exists := hD.fulfilled_exists
  unfulfilled hful := by
    have hfulfilled : (s.rounds sessionId).randomnessFulfilled = false := hful
    rw [h.fulfilled] at hfulfilled
    cases hfulfilled
  blank hzero := by
    have hcount := h.count_eq
    change selectedCount = 0 at hzero
    rw [hzero] at hcount
    cases hcount
  represents := by
    have hstep := hD.represents.succ h.rank_lt
    change Shuffle.Represents _ (Shuffle.dense _ _ (selectedCount : ℕ)) (selectedCount : ℕ)
    rw [h.count_eq]
    refine hstep.congr fun i hi ↦ ?_
    have hsmall : i < 2 ^ 32 := hi.trans (s.houseConfigs sessionId house).populationSize.isLt
    have hwrite := sparse_update (s.shuffleValues sessionId house) position encodedValue _
      h.value_eq hsmall
    rw [h.position_eq] at hwrite
    exact hwrite
  index_eq := by
    intro rank hrank hlt
    have hcount := h.count_eq
    change (rank : ℕ) < selectedCount at hlt
    change (Function.update (s.selectedIndexPlusOne sessionId house) _ encodedIndex rank : ℕ) =
      (Shuffle.dense _ (s.draw P sessionId house) (selectedCount : ℕ))[(rank : ℕ)] + 1
    rw [hcount]
    by_cases hnew : rank = (s.houseConfigs sessionId house).selectedCount
    · subst hnew
      rw [Function.update_self, h.index_eq, h.candidate_eq, h.position_eq]
      exact congrArg (· + 1) (hD.represents.dealt h.rank_lt)
    · have hold : (rank : ℕ) < (s.houseConfigs sessionId house).selectedCount := by
        have hne : (rank : ℕ) ≠ (s.houseConfigs sessionId house).selectedCount :=
          fun heq ↦ hnew (Fin.ext heq)
        omega
      rw [Function.update_of_ne hnew, Shuffle.dense_succ_of_gt hold hrank]
      exact hD.index_eq rank hrank hold
  index_blank rank hle := by
    have hcount := h.count_eq
    have hne : rank ≠ (s.houseConfigs sessionId house).selectedCount := by
      rintro rfl
      change (selectedCount : ℕ) ≤ _ at hle
      omega
    change Function.update (s.selectedIndexPlusOne sessionId house) _ encodedIndex rank = 0
    rw [Function.update_of_ne hne]
    apply hD.index_blank rank
    change (selectedCount : ℕ) ≤ (rank : ℕ) at hle
    change ((s.houseConfigs sessionId house).selectedCount : ℕ) ≤ (rank : ℕ)
    omega

theorem DrawChange.drawn {s : State} {D' : Draw} (h : DrawChange P sessionId house s D')
    (hD : Drawn P sessionId house (s.drawOf sessionId house)) : Drawn P sessionId house D' := by
  cases h with
  | same => exact hD
  | created population primarySeats alternateSeats hnew hvalid =>
    -- A round that does not exist has no random word yet.
    have hful : (s.drawOf sessionId house).fulfilled = false := by
      by_contra hful
      have hexists := hD.fulfilled_exists (by simpa using hful)
      change (s.rounds sessionId).doesExist = true at hexists
      rw [hnew] at hexists
      cases hexists
    obtain ⟨-, hvalues, hindex⟩ := hD.unstarted hful
    exact drawn_of_blank hvalid.seats_le (fun h ↦ by cases h) rfl hvalues hindex
  | fulfilled randomWord hexists hnew =>
    obtain ⟨hcount, hvalues, hindex⟩ := hD.unstarted hnew
    exact drawn_of_blank hD.seats_le (fun _ ↦ hexists) hcount hvalues hindex
  | selected position candidateIndex value index count h => exact hD.selected h

end

theorem Observable.drawn {w : SystemWorld} (h : Observable P d w) (sessionId : Uint 256)
    {house : Uint 8} (hhouse : IsHouse house) :
    Drawn P sessionId house (w.state.sortition.drawOf sessionId house) :=
  h.storage (I := fun s ↦ Drawn P sessionId house (s.drawOf sessionId house)) drawn_initial
    fun _ _ _ _ _ hs heff ↦ (heff.draw_change sessionId hhouse).drawn hs

/-! ## What the invariant gives -/

section

variable {sessionId : Uint 256} {house : Uint 8} {D : Draw}

theorem Drawn.rank_lt (hD : Drawn P sessionId house D) {rank : Uint 32} (h : rank < D.count) :
    (rank : ℕ) < D.population :=
  calc (rank : ℕ) < D.count := h
    _ ≤ D.primarySeats + D.alternateSeats := hD.count_le
    _ ≤ D.population := hD.seats_le

/-- A recorded index is the entry that any longer shuffle has at its rank. -/
theorem Drawn.index_eq_shuffle (hD : Drawn P sessionId house D) {rank : Uint 32}
    (h : rank < D.count) (hlt : (rank : ℕ) < D.population) {steps : ℕ}
    (hsteps : (D.count : ℕ) ≤ steps) :
    (D.index rank : ℕ) = (D.shuffle P sessionId house steps)[(rank : ℕ)] + 1 := by
  rw [hD.index_eq rank hlt h]
  exact congrArg (· + 1) (Shuffle.dense_prefix h hsteps hlt).symm

theorem Drawn.index_inj (hD : Drawn P sessionId house D) {rank rank' : Uint 32}
    (h : rank < D.count) (h' : rank' < D.count) (heq : D.index rank = D.index rank') :
    rank = rank' := by
  have hval : (D.index rank : ℕ) = D.index rank' := congrArg Fin.val heq
  rw [hD.index_eq rank (hD.rank_lt h) h, hD.index_eq rank' (hD.rank_lt h') h'] at hval
  exact Fin.ext (Shuffle.dense_inj (hD.rank_lt h) (hD.rank_lt h') (Nat.succ.inj hval))

/-- Two draws with the same random word and population record the same indices. -/
theorem Drawn.index_agree {D' : Draw} (hD : Drawn P sessionId house D)
    (hD' : Drawn P sessionId house D') (hword : D.randomWord = D'.randomWord)
    (hpopulation : D.population = D'.population) {rank : Uint 32} (h : rank < D.count)
    (h' : rank < D'.count) : D.index rank = D'.index rank := by
  obtain ⟨doesExist, fulfilled, randomWord, population, primary, alternate, count, values, index⟩ :=
    D
  change randomWord = D'.randomWord at hword
  change population = D'.population at hpopulation
  subst hword hpopulation
  apply Fin.ext
  rw [hD.index_eq_shuffle h (hD.rank_lt h) (le_max_left _ (D'.count : ℕ)),
    hD'.index_eq_shuffle h' (hD'.rank_lt h') (le_max_right (count : ℕ) _)]
  rfl

/-- While seats are missing the next selection succeeds and deals the next entry. -/
theorem Drawn.exists_selection {s : State} (hD : Drawn P sessionId house (s.drawOf sessionId house))
    (hhouse : IsHouse house) (hexists : (s.rounds sessionId).doesExist = true)
    (hfulfilled : (s.rounds sessionId).randomnessFulfilled = true)
    (hmore : ((s.houseConfigs sessionId house).selectedCount : ℕ) <
      (s.houseConfigs sessionId house).primarySeats +
        (s.houseConfigs sessionId house).alternateSeats) :
    ∃ candidateIndex s', finalizeNextSelection P sessionId house s =
      .ok ((s.houseConfigs sessionId house).selectedCount, candidateIndex, s') := by
  have hpopulation := (s.houseConfigs sessionId house).populationSize.isLt
  have hseats : ((s.houseConfigs sessionId house).primarySeats : ℕ) +
      (s.houseConfigs sessionId house).alternateSeats ≤
        (s.houseConfigs sessionId house).populationSize := hD.seats_le
  have hlt : ((s.houseConfigs sessionId house).selectedCount : ℕ) <
      (s.houseConfigs sessionId house).populationSize := hmore.trans_le hseats
  have htarget : Shuffle.target _ (s.draw P sessionId house) _ < _ := Shuffle.target_lt hlt
  have hread : ∀ i, i < ((s.houseConfigs sessionId house).populationSize : ℕ) →
      ((s.houseConfigs sessionId house).selectedCount : ℕ) ≤ i →
      Shuffle.read (s.sparse sessionId house) i < (s.houseConfigs sessionId house).populationSize := by
    intro i hi hle
    have hdense : Shuffle.read (s.sparse sessionId house) i = _ := hD.represents i hi hle
    rw [hdense]
    exact Shuffle.dense_lt hi
  have hcandidate := hread _ htarget Shuffle.le_target
  have hvalue := hread _ hlt le_rfl
  refine ⟨⟨_, hcandidate.trans hpopulation⟩, _, finalizeNextSelection_eq_ok.mpr
    ⟨⟨_, htarget.trans hpopulation⟩, ⟨_, (Nat.succ_le_of_lt hvalue).trans_lt hpopulation⟩,
      ⟨_, (Nat.succ_le_of_lt hcandidate).trans_lt hpopulation⟩,
      ⟨_, (Nat.succ_le_of_lt hlt).trans_lt hpopulation⟩, ?_, rfl, rfl⟩⟩
  exact ⟨hhouse, hexists, hfulfilled, hseats.trans_lt hpopulation, hmore, hlt, rfl, rfl, rfl, rfl,
    rfl⟩

/-- A selection fails for one of four named reasons; no arithmetic in it does. -/
theorem Drawn.selection_error {s : State}
    (hD : IsHouse house → Drawn P sessionId house (s.drawOf sessionId house)) {e : Error}
    (h : finalizeNextSelection P sessionId house s = .error e) :
    e = .invalidHouse ∨ e = .invalidSession sessionId ∨ e = .randomnessMissing sessionId ∨
      e = .allSelectionsFinalized sessionId house := by
  have hrun := h
  simp only [finalizeNextSelection, requireHouse, revertIf_bind] at h
  split at h
  · exact .inl (Except.error.inj h).symm
  next hhouse =>
  replace hhouse : IsHouse house := by
    unfold IsHouse
    tauto
  split at h
  · exact .inr (.inl (Except.error.inj h).symm)
  next hexists =>
  split at h
  · exact .inr (.inr (.inl (Except.error.inj h).symm))
  next hfulfilled =>
  by_cases hmore : ((s.houseConfigs sessionId house).selectedCount : ℕ) <
      (s.houseConfigs sessionId house).primarySeats +
        (s.houseConfigs sessionId house).alternateSeats
  · obtain ⟨candidateIndex, s', hok⟩ := (hD hhouse).exists_selection hhouse
      (Bool.not_eq_false _ ▸ hexists) (Bool.not_eq_false _ ▸ hfulfilled) hmore
    rw [hok] at hrun
    cases hrun
  · have hlt : ((s.houseConfigs sessionId house).primarySeats : ℕ) +
        (s.houseConfigs sessionId house).alternateSeats < 2 ^ 32 :=
      (hD hhouse).seats_le.trans_lt (s.houseConfigs sessionId house).populationSize.isLt
    have htotal : Uint.add Error.arithmeticPanic (s.houseConfigs sessionId house).primarySeats
        (s.houseConfigs sessionId house).alternateSeats = .ok ⟨_, hlt⟩ := Uint.add_eq_ok.mpr rfl
    have hfinal : (⟨_, hlt⟩ : Uint 32) ≤ (s.houseConfigs sessionId house).selectedCount :=
      not_lt.mp hmore
    rw [htotal, ok_bind, if_pos hfinal] at h
    exact .inr (.inr (.inr (Except.error.inj h).symm))

end

/-- What it means that the records of a House are the first entries of the dense shuffle. -/
structure RefinesShuffle (P : Primitives) (sessionId : Uint 256) (house : Uint 8) (D : Draw) :
    Prop where
  recorded : ∀ rank : Uint 32, rank < D.count → ∀ steps : ℕ, (D.count : ℕ) ≤ steps →
    ∃ h : (rank : ℕ) < D.population,
      (D.index rank : ℕ) = (D.shuffle P sessionId house steps)[(rank : ℕ)] + 1
  not_recorded : ∀ rank, D.count ≤ rank → D.index rank = 0
  distinct : ∀ rank rank', rank < D.count → rank' < D.count → D.index rank = D.index rank' →
    rank = rank'
  in_population : ∀ rank, rank < D.count → ∃ index, index < (D.population : ℕ) ∧
    (D.index rank : ℕ) = index + 1

theorem Drawn.refinesShuffle {sessionId : Uint 256} {house : Uint 8} {D : Draw}
    (hD : Drawn P sessionId house D) : RefinesShuffle P sessionId house D where
  recorded _ h _ hsteps := ⟨hD.rank_lt h, hD.index_eq_shuffle h (hD.rank_lt h) hsteps⟩
  not_recorded := hD.index_blank
  distinct _ _ := hD.index_inj
  in_population rank h :=
    ⟨_, Shuffle.dense_lt (hD.rank_lt h), hD.index_eq rank (hD.rank_lt h) h⟩

/-- In every run the recorded indices of a House are the first entries of the dense shuffle of its
population. They depend on nothing else: other runs with the same random word and population record
the same. No selection fails in its arithmetic, and the draw of a further rank is not truncated. -/
theorem selection_refines_shuffle {w : SystemWorld} (hw : Reachable P d w) (sessionId : Uint 256)
    (house : Uint 8) :
    (IsHouse house → RefinesShuffle P sessionId house (w.state.sortition.drawOf sessionId house)) ∧
    (IsHouse house → ∀ (d' : Deployment) (w' : SystemWorld), Reachable P d' w' →
      (w.state.sortition.rounds sessionId).randomWord =
        (w'.state.sortition.rounds sessionId).randomWord →
      (w.state.sortition.houseConfigs sessionId house).populationSize =
        (w'.state.sortition.houseConfigs sessionId house).populationSize →
      ∀ rank, rank < (w.state.sortition.houseConfigs sessionId house).selectedCount →
        rank < (w'.state.sortition.houseConfigs sessionId house).selectedCount →
        w.state.sortition.selectedIndexPlusOne sessionId house rank =
          w'.state.sortition.selectedIndexPlusOne sessionId house rank) ∧
    (∀ e, finalizeNextSelection P sessionId house w.state.sortition = .error e →
      e = .invalidHouse ∨ e = .invalidSession sessionId ∨ e = .randomnessMissing sessionId ∨
        e = .allSelectionsFinalized sessionId house) ∧
    (∀ rank candidateIndex s',
      finalizeNextSelection P sessionId house w.state.sortition = .ok (rank, candidateIndex, s') →
      0 < ((w.state.sortition.houseConfigs sessionId house).populationSize : ℕ) - rank ∧
      (Uint.truncate 32 (w.state.sortition.draw P sessionId house rank %
          ((w.state.sortition.houseConfigs sessionId house).populationSize - rank)) : ℕ) =
        w.state.sortition.draw P sessionId house rank %
          ((w.state.sortition.houseConfigs sessionId house).populationSize - rank)) := by
  refine ⟨fun hhouse ↦ (hw.observable.drawn sessionId hhouse).refinesShuffle,
    fun hhouse d' w' hw' hword hpopulation rank h h' ↦ ?_, fun e he ↦ ?_,
    fun rank candidateIndex s' h ↦ ?_⟩
  · exact (hw.observable.drawn sessionId hhouse).index_agree
      (hw'.observable.drawn sessionId hhouse) hword hpopulation h h'
  · exact Drawn.selection_error (fun hhouse ↦ hw.observable.drawn sessionId hhouse) he
  · obtain ⟨position, value, index, count, hselects, rfl, -⟩ := finalizeNextSelection_eq_ok.mp h
    have hpos := Nat.sub_pos_of_lt hselects.rank_lt
    refine ⟨hpos, truncate_mod hpos.ne' ?_⟩
    exact (Nat.sub_le _ _).trans_lt (Fin.isLt _)

/-- The Creator House draws its two candidates, the same in this run and in a longer one. -/
theorem selection_refines_shuffle_sample :
    RefinesShuffle Sample.primitives 1 CREATOR_HOUSE
      ((Sample.after Sample.selection).state.sortition.drawOf 1 CREATOR_HOUSE) ∧
    (Sample.after Sample.selection).state.sortition.selectedIndexPlusOne 1 CREATOR_HOUSE 1 =
      (Sample.after (Sample.selection ++ [Sample.primaryClaim])).state.sortition.selectedIndexPlusOne
        1 CREATOR_HOUSE 1 := by
  have hreach : Reachable Sample.primitives Sample.deployment (Sample.after Sample.selection) :=
    Sample.reachable_after (by decide)
  have h := selection_refines_shuffle hreach 1 CREATOR_HOUSE
  exact ⟨h.1 (by decide), h.2.1 (by decide) Sample.deployment _
    (Sample.reachable_after (by decide)) (by decide +kernel) (by decide +kernel) 1
    (by decide +kernel) (by decide +kernel)⟩

end CreatorFirst.Sortition
