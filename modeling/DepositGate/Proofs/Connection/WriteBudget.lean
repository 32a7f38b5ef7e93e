import DepositGate.Proofs.Connection.History

/-!
# The write budget of an answer

The end of a head starts the write budget of its answer. The budget is kept as long as the client sends
nothing behind a part of the answer: the first bytes read after such a part belong to the next head, and
with them the budget is gone or starts anew. `keepsBudget_iff` says so for every history that follows the
end of a head.
-/

namespace DepositGate.Connection

open Turn

namespace Deadlines

variable {t : Timeouts} {d : Deadlines} {start : Nat} {last : Option Way} {turns : List Turn} {u : Turn}

/-- At every moment of a history, a write that waits at the limit or later fails. -/
def KeepsBudget (t : Timeouts) (limit : Nat) (turns : List Turn) (d : Deadlines) : Prop :=
  ∀ past, past <+: turns → ∀ now, (∀ v ∈ past, v.time ≤ now) → limit ≤ now →
    ((d.after t past).write t now .pending).1 = .failed (.timedOut .write)

/-- The first read behind a part of the answer brings a whole head, at the very start of the budget. -/
def BringsHeadAt (start : Nat) (u : Turn) : Prop :=
  ∃ bytes, u = ⟨start, .read (.ready bytes)⟩ ∧ scanHeadEnd 0 bytes = none

/-- A connection whose answer has its budget since a time, where bytes have gone some way last: nothing
of the answer is written, or a part of it is and nothing has been read since. -/
structure Answering (t : Timeouts) (start : Nat) (last : Option Way) (d : Deadlines) : Prop where
  response : d.response = some (start + t.write)
  firstRead : d.firstRead = false
  stage : (d.stage = .busy ∧ last ≠ some .outward) ∨
    ((∃ since, d.stage = .idle since) ∧ last = some .outward ∧ d.stall = none)

theorem write_pending_eq_failed_iff (t : Timeouts) (now : Nat) (d : Deadlines) :
    (d.write t now .pending).1 = .failed (.timedOut .write) ↔ d.writeDeadline t now ≤ now := by
  by_cases h : d.writeDeadline t now ≤ now <;> simp [write, blocked, h]

/-! ## Answers under a budget -/

/-- The read that makes a connection busy starts a budget. -/
theorem answering_onRead {bytes : List UInt8} (hstage : d.stage ≠ .busy)
    (hbusy : (d.onRead t start bytes).stage = .busy) :
    Answering t start none (d.onRead t start bytes) := by
  have hscan : ∀ (e : Deadlines) (since matched : Nat), e.firstRead = false →
      (e.scan t start since matched bytes).stage = .busy →
      Answering t start none (e.scan t start since matched bytes) := by
    intro e since matched hfirst hscanned
    cases hscan : scanHeadEnd matched bytes with
    | none =>
        rw [scan_of_eq_none e hscan]
        exact ⟨rfl, hfirst, Or.inl ⟨rfl, by simp⟩⟩
    | some matched' => simp [scan_of_eq_some e hscan] at hscanned
  rcases onRead_cases t start bytes d with ⟨-, heq⟩ | ⟨since, matched, -, heq⟩ | ⟨since, -, heq⟩ |
    ⟨hd, -⟩
  · simp [heq] at hbusy
  · rw [heq] at hbusy ⊢
    exact hscan _ since matched rfl hbusy
  · rw [heq] at hbusy ⊢
    exact hscan _ start 0 rfl hbusy
  · exact (hstage hd).elim

theorem Answering.onRead_of_busy {now : Nat} {bytes : List UInt8} (h : Answering t start last d)
    (hbusy : d.stage = .busy) : d.onRead t now bytes = d := by
  obtain ⟨stage, firstRead, response, stall⟩ := d
  obtain ⟨-, hfirst, -⟩ := h
  simp_all [Deadlines.onRead]

theorem Answering.onRead_of_idle {now since : Nat} {bytes : List UInt8} (h : Answering t start last d)
    (hidle : d.stage = .idle since) : d.onRead t now bytes =
      ({ d with firstRead := false, response := none } : Deadlines).scan t now now 0 bytes := by
  simp [Deadlines.onRead, h.firstRead, hidle]

/-- Any turn but the first read behind a part of the answer leaves the budget as it is. -/
theorem Answering.next (h : Answering t start last d)
    (hu : u.way? = some .inward → last = some .outward → BringsHeadAt start u) :
    Answering t start (u.way?.or last) (d.next t u) := by
  rcases next_cases t d u with ⟨hway, hnext | ⟨hnone, -⟩⟩ | ⟨hway, bytes, -, hpoll, hnext⟩ |
    ⟨hway, hnext⟩
  · rw [hnext, hway]
    exact h
  · simp [h.response] at hnone
  · rw [hnext, hway]
    rcases h.stage with ⟨hbusy, -⟩ | ⟨⟨since, hidle⟩, hlast, -⟩
    · rw [h.onRead_of_busy hbusy]
      exact ⟨h.response, h.firstRead, Or.inl ⟨hbusy, by simp⟩⟩
    · obtain ⟨bytes', rfl, hscan⟩ := hu hway hlast
      obtain rfl : bytes' = bytes := by simpa using hpoll
      rw [h.onRead_of_idle hidle, scan_of_eq_none _ hscan]
      exact ⟨rfl, rfl, Or.inl ⟨rfl, by simp⟩⟩
  · rw [hnext, hway]
    rcases onWrite_cases u.time d with ⟨⟨lastActivity, hd⟩, -⟩ | ⟨-, heq⟩
    · have hstage := h.stage
      simp [hd] at hstage
    · rw [heq]
      exact ⟨h.response, h.firstRead, Or.inr ⟨⟨u.time, rfl⟩, rfl, rfl⟩⟩

theorem Answering.writeDeadline (h : Answering t start last d) (now : Nat) :
    d.writeDeadline t now = start + t.write := by
  simp [Deadlines.writeDeadline, h.response]

/-- After any other first read behind a part of the answer, a write may wait beyond the budget. -/
theorem Answering.lt_writeDeadline_next (h : Answering t start (some .outward) d)
    (hu : u.way? = some .inward) (hhead : ¬ BringsHeadAt start u) (hstart : start ≤ u.time)
    (hwrite : 0 < t.write) {now : Nat} (hnow : now = max u.time (start + t.write)) :
    now < (d.next t u).writeDeadline t now := by
  obtain ⟨⟨since, hidle⟩, -, hstall⟩ := h.stage.resolve_left fun hbusy ↦ hbusy.2 rfl
  rcases next_cases t d u with ⟨hway, -⟩ | ⟨-, bytes, -, hpoll, hnext⟩ | ⟨hway, -⟩
  · simp [hway] at hu
  · rw [hnext, h.onRead_of_idle hidle]
    cases hscan : scanHeadEnd 0 bytes with
    | none =>
        have hlater : start ≠ u.time := by
          rintro rfl
          exact hhead ⟨bytes, by rw [← hpoll], hscan⟩
        rw [scan_of_eq_none _ hscan]
        simp only [Deadlines.writeDeadline, Option.getD_some]
        omega
    | some matched =>
        rw [scan_of_eq_some _ hscan]
        simp only [Deadlines.writeDeadline, hstall, Option.getD_none]
        omega
  · simp [hway] at hu

/-- A history in which no bytes are read behind a part of the answer, but for a whole head at the very
start of the budget. -/
def Undisturbed (start : Nat) (turns : List Turn) : Prop :=
  ∀ past u, past ++ [u] <+: turns → lastWay? past = some .outward → u.way? = some .inward →
    BringsHeadAt start u

theorem Undisturbed.mono {past : List Turn} (h : Undisturbed start turns) (hpast : past <+: turns) :
    Undisturbed start past :=
  fun before u hbefore ↦ h before u (hbefore.trans hpast)

theorem undisturbed_of_silent (h : ∀ u ∈ turns, u.way? ≠ some .inward) : Undisturbed start turns :=
  fun _ u hpast _ hway ↦ (h u (hpast.subset (by simp)) hway).elim

/-- The budget of an answer outlasts every undisturbed history. -/
theorem Answering.after (h : Answering t start none d) (hturns : Undisturbed start turns) :
    Answering t start (lastWay? turns) (d.after t turns) := by
  induction turns using List.reverseRecOn with
  | nil => exact h
  | append_singleton turns u ih =>
      have hpast := ih (hturns.mono (List.prefix_append turns [u]))
      rw [after_concat, lastWay?_concat]
      exact hpast.next fun hway hlast ↦ hturns turns u (List.prefix_refl _) hlast hway

/-- A budget that is kept throughout shows that the history is undisturbed. -/
theorem Answering.undisturbed (h : Answering t start none d) (hwrite : 0 < t.write)
    (hclock : Ordered start turns) (hkeeps : KeepsBudget t (start + t.write) turns d) :
    Undisturbed start turns := by
  induction turns using List.reverseRecOn with
  | nil =>
      intro past u hpast
      simp at hpast
  | append_singleton turns v ih =>
      have hprefix : turns <+: turns ++ [v] := List.prefix_append turns [v]
      have hbefore := ih (hclock.mono hprefix) fun past hpast ↦ hkeeps past (hpast.trans hprefix)
      intro past u hpast hlast hway
      rcases List.prefix_concat_iff.mp hpast with heq | hpast
      · obtain ⟨rfl, rfl⟩ : past = turns ∧ u = v := by simpa using heq
        by_contra hhead
        have hpast := h.after hbefore
        rw [hlast] at hpast
        have hstart : start ≤ u.time := hclock.start_le (by simp)
        have hlong := hpast.lt_writeDeadline_next hway hhead hstart hwrite rfl
        -- the clock stands where the budget is over, and no earlier turn is later
        have hfails := hkeeps (past ++ [u]) (List.prefix_refl _) (max u.time (start + t.write))
          (fun w hw ↦ by
            rcases List.mem_append.mp hw with hw | hw
            · exact (hclock.le_last hw).trans (Nat.le_max_left _ _)
            · obtain rfl : w = u := by simpa using hw
              exact Nat.le_max_left _ _)
          (Nat.le_max_right _ _)
        rw [after_concat, write_pending_eq_failed_iff] at hfails
        omega
      · exact hbefore past u hpast hlast hway

/-! ## The longest wait -/

/-- A connection on which no write may wait for longer than the write timeout. While an answer is waited
for, only its budget counts. -/
structure Prompt (t : Timeouts) (now : Nat) (d : Deadlines) : Prop where
  response : ∀ deadline, d.response = some deadline → deadline ≤ now + t.write
  busy : d.stage = .busy → d.firstRead = false ∧ d.response.isSome
  stall : d.stage ≠ .busy → ∀ deadline, d.stall = some deadline → deadline ≤ now + t.write

theorem Prompt.mono {now later : Nat} (h : Prompt t now d) (hlater : now ≤ later) :
    Prompt t later d :=
  ⟨fun deadline hd ↦ (h.response deadline hd).trans (Nat.add_le_add_right hlater _), h.busy,
    fun hstage deadline hd ↦ (h.stall hstage deadline hd).trans (Nat.add_le_add_right hlater _)⟩

theorem Prompt.writeDeadline_le {now : Nat} (h : Prompt t now d) :
    d.writeDeadline t now ≤ now + t.write := by
  cases hresponse : d.response with
  | some deadline => simpa [Deadlines.writeDeadline, hresponse] using h.response deadline hresponse
  | none =>
      have hstage : d.stage ≠ .busy := fun hbusy ↦ by simpa [hresponse] using (h.busy hbusy).2
      cases hstall : d.stall with
      | none => simp [Deadlines.writeDeadline, hresponse, hstall]
      | some deadline =>
          simpa [Deadlines.writeDeadline, hresponse, hstall] using h.stall hstage deadline hstall

theorem Prompt.scan {now since matched : Nat} {bytes : List UInt8} (h : Prompt t now d)
    (hfirst : d.firstRead = false) (hstage : d.stage ≠ .busy) :
    Prompt t now (d.scan t now since matched bytes) := by
  cases hscan : scanHeadEnd matched bytes with
  | none =>
      rw [scan_of_eq_none d hscan]
      exact ⟨fun deadline hd ↦ (Option.some.inj hd).ge, fun _ ↦ ⟨hfirst, rfl⟩, fun hne ↦ (hne rfl).elim⟩
  | some matched' =>
      rw [scan_of_eq_some d hscan]
      exact ⟨h.response, fun hbusy ↦ by simp at hbusy, fun _ ↦ h.stall hstage⟩

theorem Prompt.onRead {now : Nat} {bytes : List UInt8} (h : Prompt t now d) :
    Prompt t now (d.onRead t now bytes) := by
  rcases onRead_cases t now bytes d with ⟨hmultiplexed, heq⟩ | ⟨since, matched, hd, heq⟩ |
    ⟨since, hd, heq⟩ | ⟨hd, heq⟩
  · have hstage : d.stage ≠ .busy := by
      intro hbusy
      simp [(h.busy hbusy).1, hbusy] at hmultiplexed
    rw [heq]
    exact ⟨h.response, fun hbusy ↦ by simp at hbusy, fun _ ↦ h.stall hstage⟩
  · rw [heq]
    exact Prompt.scan ⟨h.response, fun hbusy ↦ by simp [hd] at hbusy, h.stall⟩ rfl (by simp [hd])
  · rw [heq]
    exact Prompt.scan ⟨fun _ hnone ↦ by simp at hnone, fun hbusy ↦ by simp [hd] at hbusy, h.stall⟩ rfl
      (by simp [hd])
  · rw [heq]
    exact ⟨h.response, fun hbusy ↦ ⟨rfl, (h.busy hbusy).2⟩, h.stall⟩

theorem Prompt.next {now : Nat} (h : Prompt t now d) (hu : now ≤ u.time) :
    Prompt t u.time (d.next t u) := by
  have hlater := h.mono hu
  rcases next_cases t d u with ⟨-, hnext | ⟨hnone, hnext⟩⟩ | ⟨-, bytes, -, -, hnext⟩ | ⟨-, hnext⟩
  · rw [hnext]
    exact hlater
  · rw [hnext]
    exact ⟨hlater.response, hlater.busy, fun _ deadline hd ↦
      (Option.some.inj hd).ge.trans hlater.writeDeadline_le⟩
  · rw [hnext]
    exact hlater.onRead
  · rw [hnext]
    rcases onWrite_cases u.time d with ⟨-, heq⟩ | ⟨-, heq⟩ <;> rw [heq]
    all_goals exact ⟨hlater.response, fun hbusy ↦ by simp at hbusy, fun _ _ hd ↦ by simp at hd⟩

theorem Prompt.after {now : Nat} (h : Prompt t start d) (hclock : Ordered start turns)
    (hnow : ∀ u ∈ turns, u.time ≤ now) (hstart : start ≤ now) : Prompt t now (d.after t turns) := by
  induction turns using List.reverseRecOn generalizing now with
  | nil => exact h.mono hstart
  | append_singleton turns u ih =>
      have hlast := ih (hclock.mono (List.prefix_append turns [u])) (fun v hv ↦ hclock.le_last hv)
        (hclock.start_le (by simp))
      rw [after_concat]
      exact (hlast.next (Nat.le_refl _)).mono (hnow u (by simp))

theorem Answering.prompt (h : Answering t start none d) : Prompt t start d := by
  have hbusy := (h.stage.resolve_right fun hidle ↦ by simp at hidle).1
  refine ⟨fun deadline hd ↦ ?_, fun _ ↦ ⟨h.firstRead, by simp [h.response]⟩,
    fun hne ↦ (hne hbusy).elim⟩
  rw [h.response] at hd
  exact (Option.some.inj hd).ge

/-! ## The budget as a property of the history -/

/-- After the end of a head, a write that waits when the write timeout is over fails at every moment of
the history if, and unless the timeout is nothing only if, no bytes have been read behind a part of the
answer, other than a whole head at the very start of the budget. -/
theorem keepsBudget_iff {bytes : List UInt8} (hstage : d.stage ≠ .busy)
    (hbusy : (d.onRead t start bytes).stage = .busy) (hclock : Ordered start turns) :
    KeepsBudget t (start + t.write) turns (d.onRead t start bytes) ↔
      t.write = 0 ∨ Undisturbed start turns := by
  have hanswering := answering_onRead hstage hbusy
  constructor
  · intro hkeeps
    rcases Nat.eq_zero_or_pos t.write with hzero | hwrite
    · exact Or.inl hzero
    · exact Or.inr (hanswering.undisturbed hwrite hclock hkeeps)
  · rintro (hzero | hturns) past hpast now hnow hlimit <;> rw [write_pending_eq_failed_iff]
    · have hprompt := hanswering.prompt.after (hclock.mono hpast) hnow (by omega)
      have hle := hprompt.writeDeadline_le
      omega
    · rw [(hanswering.after (hturns.mono hpast)).writeDeadline now]
      exact hlimit

/-- A client that takes a part of the answer and stays silent is cut off when the budget is over. -/
theorem keepsBudget_silent_client :
    (accepted 0).stage ≠ .busy ∧ ((accepted 0).onRead ⟨1000, 100, 1000⟩ 0 headEnd).stage = .busy ∧
      Ordered 0 [⟨10, .write 100 (.ready 64)⟩, ⟨90, .write 36 .pending⟩] ∧
      KeepsBudget ⟨1000, 100, 1000⟩ 100 [⟨10, .write 100 (.ready 64)⟩, ⟨90, .write 36 .pending⟩]
        ((accepted 0).onRead ⟨1000, 100, 1000⟩ 0 headEnd) :=
  ⟨by decide, by decide, by decide,
    (keepsBudget_iff (by decide) (by decide) (by decide)).mpr
      (Or.inr (undisturbed_of_silent (by decide)))⟩

/-- A client that sends one byte behind a part of the answer is not cut off when the budget is over. -/
theorem budget_lost_to_one_byte :
    ((accepted 0).onRead ⟨1000, 100, 1000⟩ 0 headEnd).stage = .busy ∧
      Ordered 0 [⟨0, .write 100 (.ready 64)⟩, ⟨50, .read (.ready [0x78])⟩] ∧
      ((((accepted 0).onRead ⟨1000, 100, 1000⟩ 0 headEnd).after ⟨1000, 100, 1000⟩
        [⟨0, .write 100 (.ready 64)⟩, ⟨50, .read (.ready [0x78])⟩]).write ⟨1000, 100, 1000⟩ 100
          .pending).1 = .pending := by
  decide

end Deadlines

end DepositGate.Connection
