/-
  TunnelSession.Proofs.Link.Outages

  What can be seen of the link to the daemon, in order: what it reports, which requests
  it accepts, and which it puts on a connection. Whatever comes to it, and whenever,
  these signs are those of a simple course: a connection is made and lost in turn,
  messages and requests are seen only in between, and each connection begins with an
  empty queue. The main statement draws from it what those rely on who listen.
-/
import TunnelSession.Link.Supervisor

namespace TunnelSession.Supervisor

/-! ## What comes to the link, and what is seen of it -/

/-- Something that comes to the link. Times are in microseconds. -/
inductive Input
  /-- It tries to connect, if it is time. -/
  | attempt (now : Nat) (reachable : Bool)
  | receive (bytes : List UInt8)
  /-- The connection ends. -/
  | disconnect (now : Nat)
  /-- It is asked to send a request. -/
  | send (r : Request)
  /-- The connection takes the next request, if there is one. -/
  | write

/-- Something that can be seen of the link. -/
inductive Sign
  | reported (e : LinkEvent)
  | accepted (r : Request)
  | written (r : Request)
  deriving DecidableEq

/-- What the link does with an input, with what is seen of it. -/
def meet (s : Supervisor) : Input → List Sign × Supervisor
  | .attempt now reachable => ((s.attempt now reachable).1.map .reported, (s.attempt now reachable).2)
  | .receive bytes => ((s.receive bytes).1.map .reported, (s.receive bytes).2)
  | .disconnect now => ((s.disconnect now).1.map .reported, (s.disconnect now).2)
  | .send r =>
    match s.send r with
    | (.ok (), s) => ([.accepted r], s)
    | (.error _, s) => ([], s)
  | .write =>
    match s.write? with
    | some (r, s) => ([.written r], s)
    | none => ([], s)

/-- What the link does with inputs, one after the other. -/
def run (s : Supervisor) : List Input → List Sign × Supervisor
  | [] => ([], s)
  | i :: inputs =>
    let met := s.meet i
    let later := met.2.run inputs
    (met.1 ++ later.1, later.2)

/-- The requests that are accepted, in order. -/
def accepted (signs : List Sign) : List Request :=
  signs.filterMap fun | .accepted r => some r | _ => none

/-- The requests that are put on a connection, in order. -/
def written (signs : List Sign) : List Request :=
  signs.filterMap fun | .written r => some r | _ => none

/-- A connection is up after these signs: one was made, and it was not lost since. -/
def Up (signs : List Sign) : Prop :=
  ∃ before since, signs = before ++ .reported .ready :: since ∧ .reported .lost ∉ since

/-! ## The course of a link -/

/-- Where the course of a link stands. -/
inductive Standing
  /-- There was no connection yet, and nothing was reported. -/
  | fresh
  /-- There is no connection, and that is reported. -/
  | down
  /-- There is a connection; the requests are still to be put on it. -/
  | up (queue : List Request)

/-- The signs of a course, one by one. -/
inductive Follows : Standing → Sign → Standing → Prop
  | fails : Follows .fresh (.reported .lost) .down
  | first : Follows .fresh (.reported .ready) (.up [])
  | returns : Follows .down (.reported .ready) (.up [])
  | ends (queue : List Request) : Follows (.up queue) (.reported .lost) .down
  | hears (queue : List Request) (r : Reply) :
      Follows (.up queue) (.reported (.message r)) (.up queue)
  | accepts (queue : List Request) (r : Request) :
      Follows (.up queue) (.accepted r) (.up (queue ++ [r]))
  | writes (r : Request) (rest : List Request) : Follows (.up (r :: rest)) (.written r) (.up rest)

/-- The signs of a course from one standing to another. -/
inductive Course : Standing → List Sign → Standing → Prop
  | stay (p : Standing) : Course p [] p
  | step {p q r : Standing} {x : Sign} {signs : List Sign} (h : Follows p x q)
      (rest : Course q signs r) : Course p (x :: signs) r

namespace Course

variable {p q r : Standing} {x : Sign} {signs more : List Sign} {queue : List Request}

theorem single (h : Follows p x q) : Course p [x] q := .step h (.stay q)

theorem append (h : Course p signs q) (h' : Course q more r) : Course p (signs ++ more) r := by
  induction h with
  | stay p => exact h'
  | step hx rest ih => exact .step hx (ih h')

theorem split (h : Course p (signs ++ more) r) : ∃ q, Course p signs q ∧ Course q more r := by
  induction signs generalizing p with
  | nil => exact ⟨p, .stay p, h⟩
  | cons x signs ih =>
      cases h with
      | step hx rest =>
          obtain ⟨q, hsigns, hmore⟩ := ih rest
          exact ⟨q, .step hx hsigns, hmore⟩

theorem split_at (h : Course p (signs ++ x :: more) r) :
    ∃ q q', Course p signs q ∧ Follows q x q' ∧ Course q' more r := by
  obtain ⟨q, hsigns, hrest⟩ := h.split
  cases hrest with
  | step hx hmore => exact ⟨q, _, hsigns, hx, hmore⟩

/-- While the outage goes on nothing is seen of the link. -/
theorem of_down (h : Course .down signs r) (hready : .reported .ready ∉ signs) :
    signs = [] ∧ r = .down := by
  cases h with
  | stay => exact ⟨rfl, rfl⟩
  | step hx rest =>
      cases hx with
      | returns => exact absurd List.mem_cons_self hready

/-- A connection that is not lost is up. -/
theorem of_up (h : Course (.up queue) signs r) (hlost : .reported .lost ∉ signs) :
    ∃ left, r = .up left := by
  generalize hp : Standing.up queue = p at h
  induction h generalizing queue with
  | stay p => exact ⟨queue, hp.symm⟩
  | step hx rest ih =>
      subst hp
      have hrest := fun hmem => hlost (List.mem_cons_of_mem _ hmem)
      cases hx with
      | ends => exact absurd List.mem_cons_self hlost
      | hears _ r => exact ih hrest rfl
      | accepts _ r => exact ih hrest rfl
      | writes r rest => exact ih hrest rfl

/-- Where a connection is up, it was so before these signs and was not lost since, or they
    show how it came up. -/
theorem to_up (h : Course p signs (.up queue)) :
    (∃ first, p = .up first) ∧ .reported .lost ∉ signs ∨ Up signs := by
  generalize hr : Standing.up queue = r at h
  induction h with
  | stay p => exact .inl ⟨⟨queue, hr.symm⟩, nofun⟩
  | @step p q r x signs hx rest ih =>
      rcases ih hr with ⟨⟨first, rfl⟩, hlost⟩ | ⟨before, since, rfl, hlost⟩
      · -- the connection is up after the first sign: either this one brought it up
        cases hx with
        | first => exact .inr ⟨[], signs, rfl, hlost⟩
        | returns => exact .inr ⟨[], signs, rfl, hlost⟩
        | hears | accepts | writes => exact .inl ⟨⟨_, rfl⟩, by simp [hlost]⟩
      · exact .inr ⟨x :: before, since, rfl, hlost⟩

/-- As long as no other connection is made, what is put on this one is the first part of
    what was left to send and what is accepted. -/
theorem written_prefix (h : Course (.up queue) signs r) (hready : .reported .ready ∉ signs) :
    written signs <+: queue ++ accepted signs := by
  generalize hp : Standing.up queue = p at h
  induction h generalizing queue with
  | stay p => exact List.nil_prefix
  | @step p q r x signs hx rest ih =>
      subst hp
      have hrest := fun hmem => hready (List.mem_cons_of_mem _ hmem)
      cases hx with
      | ends =>
          -- nothing more is seen before the next connection
          obtain ⟨rfl, -⟩ := rest.of_down hrest
          exact List.nil_prefix
      | hears _ reply => exact ih hrest rfl
      | accepts _ request =>
          have hlater := ih hrest rfl
          rw [List.append_assoc] at hlater
          exact hlater
      | writes request left => exact (List.prefix_cons_inj request).mpr (ih hrest rfl)

/-- After a loss the link is down, so that a connection is made before it is lost again. -/
theorem ready_between {a b c : List Sign}
    (h : Course p (a ++ .reported .lost :: (b ++ .reported .lost :: c)) r) :
    .reported .ready ∈ b := by
  apply Decidable.byContradiction
  intro hready
  obtain ⟨q, q', -, hlost, hrest⟩ := h.split_at
  obtain ⟨q'', _, hb, hagain, -⟩ := hrest.split_at
  obtain rfl : q' = .down := by cases hlost <;> rfl
  obtain ⟨-, rfl⟩ := hb.of_down hready
  cases hagain

/-- After a return a connection is up, and it is lost before another one is made. -/
theorem lost_between {a b c : List Sign}
    (h : Course p (a ++ .reported .ready :: (b ++ .reported .ready :: c)) r) :
    .reported .lost ∈ b := by
  apply Decidable.byContradiction
  intro hlost
  obtain ⟨q, q', -, hready, hrest⟩ := h.split_at
  obtain ⟨q'', _, hb, hagain, -⟩ := hrest.split_at
  obtain rfl : q' = .up [] := by cases hready <;> rfl
  obtain ⟨left, rfl⟩ := hb.of_up hlost
  cases hagain

/-- A course that began without a connection shows whether one is up. -/
theorem exists_up_iff (h : Course .fresh signs r) : (∃ queue, r = .up queue) ↔ Up signs := by
  constructor
  · rintro ⟨queue, rfl⟩
    exact h.to_up.resolve_left fun hfirst => nomatch hfirst.1
  · rintro ⟨before, since, rfl, hlost⟩
    obtain ⟨q, q', -, hready, hsince⟩ := h.split_at
    obtain rfl : q' = .up [] := by cases hready <;> rfl
    exact hsince.of_up hlost

/-- All but losses and returns is seen where a connection is up. -/
theorem up_before {a c : List Sign} (h : Course .fresh (a ++ x :: c) r)
    (hlost : x ≠ .reported .lost) (hready : x ≠ .reported .ready) : Up a := by
  obtain ⟨q, q', ha, hx, -⟩ := h.split_at
  apply ha.exists_up_iff.mp
  cases hx with
  | fails | ends => exact absurd rfl hlost
  | first | returns => exact absurd rfl hready
  | hears queue | accepts queue => exact ⟨queue, rfl⟩
  | writes r rest => exact ⟨r :: rest, rfl⟩

/-- What is put on a connection was accepted on it. -/
theorem written_since {a b c : List Sign} (h : Course p (a ++ .reported .ready :: (b ++ c)) r)
    (hready : .reported .ready ∉ b) : written b <+: accepted b := by
  obtain ⟨q, q', -, hmade, hrest⟩ := h.split_at
  obtain ⟨_, hb, -⟩ := hrest.split
  obtain rfl : q' = .up [] := by cases hmade <;> rfl
  exact hb.written_prefix hready

end Course

/-! ## The link keeps to the course -/

variable {s : Supervisor} {p : Standing}

/-- The state of the link is that of a course. -/
def StandsAt (s : Supervisor) : Standing → Prop
  | .fresh => s.isConnected = false ∧ s.outageReported = false
  | .down => s.isConnected = false ∧ s.outageReported = true
  | .up queue => s.isConnected = true ∧ s.outageReported = false ∧ s.queue = queue

/-- What is seen is the next part of the course, and the state is that at its end. -/
def Continues (p : Standing) (done : List Sign × Supervisor) : Prop :=
  ∃ q, Course p done.1 q ∧ done.2.StandsAt q

theorem Continues.same (h : s.StandsAt p) : Continues p ([], s) := ⟨p, .stay p, h⟩

/-- There is a connection just in the standing where there is one in the course. -/
theorem StandsAt.up_of_connected (h : s.StandsAt p) (hs : s.isConnected = true) :
    p = .up s.queue ∧ s.outageReported = false := by
  cases p with
  | fresh | down => exact absurd (hs.symm.trans h.1) (by decide)
  | up queue => exact ⟨congrArg Standing.up h.2.2.symm, h.2.1⟩

theorem StandsAt.apart (h : s.StandsAt p) (hs : s.isConnected = false) :
    p = .fresh ∧ s.outageReported = false ∨ p = .down ∧ s.outageReported = true := by
  cases p with
  | fresh => exact .inl ⟨rfl, h.2⟩
  | down => exact .inr ⟨rfl, h.2⟩
  | up queue => exact absurd (h.1.symm.trans hs) (by decide)

theorem StandsAt.isConnected_iff (h : s.StandsAt p) :
    s.isConnected = true ↔ ∃ queue, p = .up queue := by
  constructor
  · intro hs
    exact ⟨s.queue, (h.up_of_connected hs).1⟩
  · rintro ⟨queue, rfl⟩
    exact h.1

/-- An outage is reported if it is a new one. -/
theorem pause_continues (h : s.StandsAt p) (now : Nat) :
    Continues p ((s.pause now).1.map .reported, (s.pause now).2) := by
  have hpaused : (s.pause now).2.StandsAt .down := ⟨rfl, rfl⟩
  cases p with
  | fresh =>
      refine ⟨.down, ?_, hpaused⟩
      rw [pause, h.2]
      exact .single .fails
  | down =>
      refine ⟨.down, ?_, hpaused⟩
      rw [pause, h.2]
      exact .stay .down
  | up queue =>
      refine ⟨.down, ?_, hpaused⟩
      rw [pause, h.2.1]
      exact .single (.ends queue)

theorem attempt_continues (h : s.StandsAt p) (now : Nat) (reachable : Bool) :
    Continues p (s.meet (.attempt now reachable)) := by
  rw [meet, attempt]
  split
  · exact .same h
  · next due hstage =>
    split
    · exact .same h
    · split
      · -- the new connection has nothing left from the last one
        have hnew : ({ backoff := s.backoff.reset, stage := .joined {} } : Supervisor).StandsAt
            (.up []) := ⟨rfl, rfl, rfl⟩
        have hs : s.isConnected = false := by rw [isConnected, hstage]
        rcases h.apart hs with ⟨rfl, -⟩ | ⟨rfl, -⟩
        · exact ⟨.up [], .single .first, hnew⟩
        · exact ⟨.up [], .single .returns, hnew⟩
      · exact pause_continues h now

/-- Only messages are taken out of what arrives. -/
theorem course_of_lines (queue : List Request) (lines : List (Except FrameError String)) :
    Course (.up queue) ((lines.filterMap eventOf?).map .reported) (.up queue) := by
  induction lines with
  | nil => exact .stay _
  | cons line lines ih =>
      rw [List.filterMap_cons]
      split
      · exact ih
      · next e he =>
        obtain ⟨r, rfl⟩ : ∃ r, e = .message r := by
          unfold eventOf? at he
          split at he
          · obtain ⟨r, -, hr⟩ := Option.map_eq_some_iff.mp he
            exact ⟨r, hr.symm⟩
          · cases he
        exact .step (.hears queue r) ih

theorem receive_continues (h : s.StandsAt p) (bytes : List UInt8) :
    Continues p (s.meet (.receive bytes)) := by
  rw [meet, receive]
  split
  · next buffer hstage =>
    have hs : s.isConnected = true := by rw [isConnected, hstage]
    obtain ⟨rfl, hreported⟩ := h.up_of_connected hs
    exact ⟨.up s.queue, course_of_lines s.queue _, rfl, hreported, rfl⟩
  · exact .same h

theorem disconnect_continues (h : s.StandsAt p) (now : Nat) :
    Continues p (s.meet (.disconnect now)) := by
  rw [meet, disconnect]
  split
  · exact pause_continues h now
  · exact .same h

theorem send_continues (h : s.StandsAt p) (r : Request) : Continues p (s.meet (.send r)) := by
  rw [meet, send]
  cases hs : s.isConnected with
  | true =>
      obtain ⟨rfl, hreported⟩ := h.up_of_connected hs
      exact ⟨.up (s.queue ++ [r]), .single (.accepts s.queue r), hs, hreported, rfl⟩
  | false => exact .same h

theorem write_continues (h : s.StandsAt p) : Continues p (s.meet .write) := by
  rw [meet, write?]
  split
  · next r s' hwrite =>
    split at hwrite
    · next buffer r' rest hstage hqueue =>
      obtain ⟨rfl, rfl⟩ := Prod.mk.inj (Option.some.inj hwrite)
      have hs : s.isConnected = true := by rw [isConnected, hstage]
      obtain ⟨rfl, hreported⟩ := h.up_of_connected hs
      rw [hqueue]
      exact ⟨.up rest, .single (.writes r' rest), hs, hreported, rfl⟩
    · cases hwrite
  · exact .same h

/-- Whatever comes to the link continues the course. -/
theorem meet_continues (h : s.StandsAt p) (i : Input) : Continues p (s.meet i) := by
  cases i with
  | attempt now reachable => exact attempt_continues h now reachable
  | receive bytes => exact receive_continues h bytes
  | disconnect now => exact disconnect_continues h now
  | send r => exact send_continues h r
  | write => exact write_continues h

theorem run_continues (h : s.StandsAt p) (inputs : List Input) : Continues p (s.run inputs) := by
  induction inputs generalizing s p with
  | nil => exact .same h
  | cons i inputs ih =>
      obtain ⟨q, hmet, hq⟩ := meet_continues h i
      obtain ⟨r, hlater, hr⟩ := ih hq
      exact ⟨r, hmet.append hlater, hr⟩

/-! ## What listeners rely on -/

/-- On every run of a link, with any delays: between two losses there is a return, and
    between two returns a loss. A message is reported, a request accepted or put on a
    connection only where a connection is up by the reports so far; and whether one is
    up is what the link answers when asked. What is put on one connection is the first
    part of what was accepted on this very connection, in order, so that nothing that was
    accepted before a loss is put on a later one. -/
theorem losses_and_returns_alternate (backoff : Backoff) (inputs : List Input) :
    let done := ({ backoff := backoff } : Supervisor).run inputs
    let signs := done.1
    (∀ a b c, signs = a ++ .reported .lost :: (b ++ .reported .lost :: c) →
      .reported .ready ∈ b) ∧
    (∀ a b c, signs = a ++ .reported .ready :: (b ++ .reported .ready :: c) →
      .reported .lost ∈ b) ∧
    (∀ a x c, signs = a ++ x :: c → x ≠ .reported .lost → x ≠ .reported .ready → Up a) ∧
    (∀ a b c, signs = a ++ .reported .ready :: (b ++ c) → .reported .ready ∉ b →
      written b <+: accepted b) ∧
    (done.2.isConnected = true ↔ Up signs) := by
  intro done signs
  have hfirst : ({ backoff := backoff } : Supervisor).StandsAt .fresh := ⟨rfl, rfl⟩
  obtain ⟨last, hcourse, hlast⟩ : Continues .fresh done := run_continues hfirst inputs
  have hcourse : Course .fresh signs last := hcourse
  refine ⟨fun a b c hsplit => ?_, fun a b c hsplit => ?_, fun a x c hsplit hlost hready => ?_,
    fun a b c hsplit hready => ?_, ?_⟩
  · rw [hsplit] at hcourse
    exact hcourse.ready_between
  · rw [hsplit] at hcourse
    exact hcourse.lost_between
  · rw [hsplit] at hcourse
    exact hcourse.up_before hlost hready
  · rw [hsplit] at hcourse
    exact hcourse.written_since hready
  · rw [← hcourse.exists_up_iff]
    exact hlast.isConnected_iff

-- the connection is lost before it takes the request, and the next one does not get it
example :
    (({} : Supervisor).run [.attempt 0 true, .send .deactivate, .disconnect 7,
      .attempt 500007 true, .write]).1 =
        [.reported .ready, .accepted .deactivate, .reported .lost, .reported .ready] := by
  decide

end TunnelSession.Supervisor
