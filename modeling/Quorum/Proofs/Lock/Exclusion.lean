import Quorum.Proofs.Disk.Frame
import Quorum.Proofs.Lock.Crowd

/-!
# Who holds a lock

A process that takes the lock may remove a file that another has made since it looked. As long as no
process does that, at most one holds the lock, and the file is its own. Nobody does it if nobody
begins to take the lock while another is at it. But two processes that come between each other can
hold the lock together.
-/

namespace Quorum.Lock

/-- What a process has written into the file that it made. -/
def Stage.inscription? (p : ProcessId) : Stage → Option String
  | .signing => some ""
  | .held => some (signature p)
  | _ => none

namespace Crowd

variable {isAlive : ProcessId → Bool} {dataDir : Path} {c : Crowd} {d : Disk} {p q : ProcessId}
  {event : ProcessId × Move} {events : List (ProcessId × Move)}

/-- What a process has written into the file that it made, if it has not given up the lock. -/
def inscription? (c : Crowd) (p : ProcessId) : Option String :=
  (c.stage p).bind (Stage.inscription? p)

/-- A process removes the file of another that holds the lock, or is about to. -/
def Ousts (c : Crowd) : ProcessId × Move → Prop
  | (p, .proceeds) => c.stage p = some .clearing ∧ ∃ q ∈ c.maker, (c.inscription? q).isSome
  | _ => False

/-! ### One lock file -/

/-- Whoever made a lock file made the one that is there. -/
structure Sole (dataDir : Path) (c : Crowd) : Prop where
  tidy : c.disk.Tidy
  own : ∀ p text, c.inscription? p = some text →
    c.maker = some p ∧ c.disk.read (path dataDir) = .ok text

lemma inscription?_of_stage {stage : Stage} (h : c.stage p = some stage) :
    c.inscription? p = stage.inscription? p := by
  rw [inscription?, h, Option.bind_some]

namespace Sole

lemma start (tidy : d.Tidy) : Sole dataDir (Crowd.start d) :=
  ⟨tidy, nofun⟩

lemma eq_of_inscription? (h : Sole dataDir c) {text text' : String}
    (hp : c.inscription? p = some text) (hq : c.inscription? q = some text') : p = q := by
  obtain ⟨made, _⟩ := h.own p text hp
  obtain ⟨made', _⟩ := h.own q text' hq
  rw [made] at made'
  exact Option.some.inj made'

/-- If nobody else has made the file, it is enough to look at the process that moves. -/
lemma update {stage? : Option Stage} {disk : Disk} {maker : Option ProcessId} (tidy : disk.Tidy)
    (others : ∀ q ≠ p, ∀ text, c.inscription? q = some text →
      maker = some q ∧ disk.read (path dataDir) = .ok text)
    (self : ∀ text, stage?.bind (Stage.inscription? p) = some text →
      maker = some p ∧ disk.read (path dataDir) = .ok text) :
    Sole dataDir ⟨disk, Function.update c.stage p stage?, maker⟩ := by
  refine ⟨tidy, fun q text inscribed => ?_⟩
  by_cases same : q = p
  · subst same
    exact self text (by simpa [inscription?] using inscribed)
  · exact others q same text (by simpa [inscription?, same] using inscribed)

/-- A process that has written nothing may be at any stage. -/
lemma silent {stage : Stage} (h : Sole dataDir c) (nothing : stage.inscription? p = none) :
    Sole dataDir ⟨c.disk, Function.update c.stage p (some stage), c.maker⟩ := by
  refine update h.tidy (fun q _ => h.own q) fun text written => ?_
  rw [Option.bind_some, nothing] at written
  cases written

lemma begin (h : Sole dataDir c) (p : ProcessId) : Sole dataDir (c.begin p) := by
  unfold Crowd.begin
  split
  · exact h.silent rfl
  · exact h.silent rfl
  · exact h

lemma drop (h : Sole dataDir c) (p : ProcessId) : Sole dataDir (c.drop dataDir p) := by
  unfold Crowd.drop
  split
  · rename_i held
    have inscribed := inscription?_of_stage held
    obtain ⟨_, read⟩ := h.own p _ inscribed
    obtain ⟨s, found⟩ := Disk.read_eq_ok_iff.mp read
    have removed : c.disk.remove (path dataDir) = .ok (c.disk.drop s) := by
      rw [Disk.remove, found]
    have released : release dataDir c.disk = c.disk.drop s := by
      rw [release, removed]
      rfl
    refine update (released ▸ h.tidy.drop s) (fun q other text written => ?_) nofun
    exact absurd (h.eq_of_inscription? written inscribed) other
  · exact h

/-- An operation that does not remove the file of another leaves at most one. -/
lemma proceed (h : Sole dataDir c) (calm : ¬ c.Ousts (p, .proceeds)) :
    Sole dataDir (c.proceed isAlive dataDir p) := by
  cases at_stage : c.stage p with
  | none =>
    simp only [Crowd.proceed, at_stage]
    exact h
  | some stage =>
    have inscribed := inscription?_of_stage at_stage
    rcases stepped : step ⟨p, isAlive⟩ dataDir stage c.disk with ⟨next, d⟩
    have own : stage = .signing → c.maker = some p := by
      rintro rfl
      exact (h.own p "" inscribed).1
    rw [proceed_eq at_stage ((operate_eq_step own).trans stepped)]
    cases Operates.of_step stepped with
    | clears removed =>
      -- nobody has made the file that is removed
      obtain ⟨s, text, _, rfl⟩ := Disk.exists_of_remove removed
      refine update (h.tidy.drop s) (fun q _ text written => ?_) fun text written => ?_
      · obtain ⟨made, _⟩ := h.own q text written
        exact absurd ⟨at_stage, q, made, by simp [written]⟩ calm
      · cases written
    | creates created =>
      -- nobody has made a file, as none was there
      obtain ⟨tidy, empty, none⟩ := Disk.read_of_createNew h.tidy created
      refine update tidy (fun q _ text written => ?_) fun text written => ?_
      · exact absurd (h.own q text written).2 (none text)
      · cases written
        exact ⟨rfl, empty⟩
    | signs written =>
      obtain ⟨made, read⟩ := h.own p "" inscribed
      obtain ⟨tidy, old, old_read, new_read⟩ := Disk.read_of_append h.tidy written
      refine update tidy (fun q other text written' => ?_) fun text written' => ?_
      · exact absurd (h.eq_of_inscription? written' inscribed) other
      · cases written'
        rw [read] at old_read
        cases old_read
        exact ⟨made, by simpa using new_read⟩
    | rests =>
      refine update h.tidy (fun q _ => h.own q) fun text written => ?_
      exact h.own p text (inscribed.trans written)
    | @refuses _ reason =>
      have maker_eq : c.makerAfter p stage (.refused reason) = c.maker := by cases stage <;> rfl
      rw [maker_eq]
      exact h.silent rfl
    | reads => exact h.silent rfl
    | misses => exact h.silent rfl
    | condemns => exact h.silent rfl
    | sees => exact h.silent rfl
    | passes => exact h.silent rfl
    | comesLate => exact h.silent rfl

lemma act (h : Sole dataDir c) (calm : ¬ c.Ousts event) :
    Sole dataDir (c.act isAlive dataDir event) := by
  obtain ⟨p, move⟩ := event
  cases move with
  | begins => exact h.begin p
  | proceeds => exact h.proceed calm
  | drops => exact h.drop p

/-- At every time of a run in which nobody ousts another there is at most one maker. -/
lemma run (h : Sole dataDir c)
    (calm : c.Throughout isAlive dataDir (fun c e => ¬ c.Ousts e) events) :
    Sole dataDir (c.run isAlive dataDir events) := by
  induction events generalizing c with
  | nil => exact h
  | cons event events ih =>
    obtain ⟨first, rest⟩ := calm
    exact ih (h.act first) rest

/-- The holder of the lock made the file that is there, and it has its number. -/
lemma own_of_held (h : Sole dataDir c) (held : c.stage p = some .held) :
    c.maker = some p ∧ holder? dataDir c.disk = some p := by
  obtain ⟨made, read⟩ := h.own p _ (inscription?_of_stage held)
  exact ⟨made, holder?_of_read read⟩

end Sole

/-! ### One after the other -/

end Crowd

/-- Whether the lock is still to be taken. -/
def Stage.isUnderWay : Stage → Bool
  | .held | .refused _ => false
  | _ => true

/-- Whether nobody alive was found to hold the lock, so that its file may be removed. -/
def Stage.foundNobody (isAlive : ProcessId → Bool) : Stage → Bool
  | .probing pid => !isAlive pid
  | .looking | .clearing | .creating => true
  | _ => false

lemma Stage.isUnderWay_of_foundNobody {isAlive : ProcessId → Bool} {stage : Stage}
    (h : stage.foundNobody isAlive = true) : stage.isUnderWay = true := by
  cases stage with
  | held => cases h
  | refused => cases h
  | _ => rfl

namespace Operates

variable {ps : Processes} {dataDir : Path} {stage next : Stage} {d d' : Disk}

lemma isUnderWay (h : Operates ps dataDir stage d next d') (on : next.isUnderWay = true) :
    stage.isUnderWay = true := by
  cases h with
  | refuses => cases on
  | rests => cases on
  | _ => rfl

lemma isUnderWay_or_held (h : Operates ps dataDir stage d .held d') :
    stage.isUnderWay = true ∨ stage = .held := by
  cases h with
  | signs => exact .inl rfl
  | rests => exact .inr rfl

/-- That there is nobody is found out from the lock file. -/
lemma foundNobody (h : Operates ps dataDir stage d next d')
    (found : next.foundNobody ps.isAlive = true) :
    stage.foundNobody ps.isAlive = true ∨
      ∀ pid, holder? dataDir d = some pid → ps.isAlive pid = false := by
  cases h with
  | @reads _ pid named =>
    refine .inr fun pid' named' => ?_
    obtain rfl : pid = pid' := Option.some.inj (named.symm.trans named')
    have not_alive : (!ps.isAlive pid) = true := found
    rwa [Bool.not_eq_true'] at not_alive
  | misses none =>
    refine .inr fun pid named => ?_
    rw [none] at named
    cases named
  | @condemns _ pid dead =>
    have not_alive : (!ps.isAlive pid) = true := by rw [dead, Bool.not_false]
    exact .inl not_alive
  | sees => exact .inl rfl
  | passes => exact .inl rfl
  | clears => exact .inl rfl
  | _ => cases found

end Operates

namespace Crowd

variable {isAlive : ProcessId → Bool} {dataDir : Path} {c : Crowd} {d : Disk} {p q : ProcessId}
  {event : ProcessId × Move} {events : List (ProcessId × Move)}

/-- Only living processes begin to take the lock, and only while no other is at it. -/
def InTurn (isAlive : ProcessId → Bool) (c : Crowd) : ProcessId × Move → Prop
  | (p, .begins) => isAlive p = true ∧
      ∀ q stage, c.stage q = some stage → stage.isUnderWay = false
  | _ => True

/-- At most one living process is at taking the lock, and if it found nobody, nobody holds it. -/
structure Orderly (isAlive : ProcessId → Bool) (dataDir : Path) (c : Crowd) : Prop
    extends Sole dataDir c where
  alive : ∀ p stage, c.stage p = some stage → isAlive p = true
  one : ∀ p q stage stage', c.stage p = some stage → c.stage q = some stage' →
    stage.isUnderWay = true → stage'.isUnderWay = true → p = q
  vacant : ∀ p stage, c.stage p = some stage → stage.foundNobody isAlive = true →
    ∀ q, c.stage q ≠ some .held

namespace Orderly

lemma start (tidy : d.Tidy) : Orderly isAlive dataDir (Crowd.start d) :=
  ⟨.start tidy, nofun, nofun, nofun⟩

lemma not_ousts (h : Orderly isAlive dataDir c) : ¬ c.Ousts event := by
  obtain ⟨p, move⟩ := event
  cases move with
  | begins => exact id
  | drops => exact id
  | proceeds =>
    rintro ⟨at_stage, q, made, inscribed⟩
    cases at_other : c.stage q with
    | none => simp [inscription?, at_other] at inscribed
    | some stage =>
      rw [inscription?_of_stage at_other] at inscribed
      cases stage with
      | signing =>
        obtain rfl := h.one p q _ _ at_stage at_other rfl rfl
        rw [at_stage] at at_other
        cases at_other
      | held => exact h.vacant p _ at_stage rfl q at_other
      | _ => cases inscribed

/-- If only one process moves on, it is enough to look at where it comes to. -/
lemma update {stage? : Option Stage} {disk : Disk} {maker : Option ProcessId}
    (h : Orderly isAlive dataDir c)
    (sole : Sole dataDir ⟨disk, Function.update c.stage p stage?, maker⟩)
    (alive : isAlive p = true)
    (alone : ∀ next, stage? = some next → next.isUnderWay = true →
      ∀ q stage, c.stage q = some stage → stage.isUnderWay = true → q = p)
    (vacant : ∀ next, stage? = some next → next.foundNobody isAlive = true →
      ∀ q, c.stage q ≠ some .held)
    (held : stage? = some .held → ∀ q stage, q ≠ p → c.stage q = some stage →
      stage.foundNobody isAlive = false) :
    Orderly isAlive dataDir ⟨disk, Function.update c.stage p stage?, maker⟩ := by
  refine ⟨sole, fun q stage at_stage => ?_, fun q r stage stage' at_stage at_stage' on on' => ?_,
    fun q stage at_stage found r at_held => ?_⟩
  · by_cases same : q = p
    · exact same ▸ alive
    · exact h.alive q stage (by simpa [same] using at_stage)
  · by_cases same : q = p <;> by_cases same' : r = p
    · rw [same, same']
    · subst same
      exact (alone stage (by simpa using at_stage) on r stage' (by simpa [same'] using at_stage')
        on').symm
    · subst same'
      exact alone stage' (by simpa using at_stage') on' q stage (by simpa [same] using at_stage) on
    · exact h.one q r stage stage' (by simpa [same] using at_stage)
        (by simpa [same'] using at_stage') on on'
  · by_cases same : q = p <;> by_cases same' : r = p
    · subst same same'
      rw [at_stage] at at_held
      cases at_held
      cases found
    · subst same
      exact vacant stage (by simpa using at_stage) found r (by simpa [same'] using at_held)
    · subst same'
      have busy := held (by simpa using at_held) q stage same (by simpa [same] using at_stage)
      rw [found] at busy
      cases busy
    · exact h.vacant q stage (by simpa [same] using at_stage) found r
        (by simpa [same'] using at_held)

lemma begin (h : Orderly isAlive dataDir c) (turn : c.InTurn isAlive (p, .begins)) :
    Orderly isAlive dataDir (c.begin p) := by
  obtain ⟨alive, nobody⟩ := turn
  have sole := h.toSole.begin p
  have starts (sole : Sole dataDir { c with stage := Function.update c.stage p (some .reading) }) :
      Orderly isAlive dataDir { c with stage := Function.update c.stage p (some .reading) } := by
    refine h.update sole alive (fun next _ _ q stage at_stage on => ?_) ?_ nofun
    · rw [nobody q stage at_stage] at on
      cases on
    · rintro next ⟨rfl⟩ found
      cases found
  unfold Crowd.begin at sole ⊢
  split
  · rename_i none
    simp only [none] at sole
    exact starts sole
  · rename_i refused
    simp only [refused] at sole
    exact starts sole
  · exact h

lemma proceed (h : Orderly isAlive dataDir c) :
    Orderly isAlive dataDir (c.proceed isAlive dataDir p) := by
  have sole : Sole dataDir (c.proceed isAlive dataDir p) := h.toSole.proceed h.not_ousts
  cases at_stage : c.stage p with
  | none =>
    simp only [Crowd.proceed, at_stage]
    exact h
  | some stage =>
    rcases stepped : step ⟨p, isAlive⟩ dataDir stage c.disk with ⟨next, d⟩
    have own : stage = .signing → c.maker = some p := by
      rintro rfl
      exact (h.own p "" (inscription?_of_stage at_stage)).1
    rw [proceed_eq at_stage ((operate_eq_step own).trans stepped)] at sole ⊢
    have operates := Operates.of_step stepped
    refine h.update sole (h.alive p stage at_stage) ?_ ?_ ?_
    · rintro _ ⟨rfl⟩ on q stage' at_stage' on'
      exact (h.one p q stage stage' at_stage at_stage' (operates.isUnderWay on) on').symm
    · rintro _ ⟨rfl⟩ found q held
      rcases operates.foundNobody found with found | dead
      · exact h.vacant p stage at_stage found q held
      · -- a holder would have been found by its number
        have named := dead q (h.toSole.own_of_held held).2
        exact Bool.false_ne_true (named.symm.trans (h.alive q _ held))
    · rintro ⟨rfl⟩ q stage' other at_stage'
      by_contra found
      have found : stage'.foundNobody isAlive = true := by simpa using found
      rcases operates.isUnderWay_or_held with on | rfl
      · exact other (h.one q p stage' stage at_stage' at_stage
          (Stage.isUnderWay_of_foundNobody found) on)
      · exact h.vacant q stage' at_stage' found p at_stage

lemma drop (h : Orderly isAlive dataDir c) : Orderly isAlive dataDir (c.drop dataDir p) := by
  have sole := h.toSole.drop p
  unfold Crowd.drop at sole ⊢
  split
  · rename_i held
    rw [if_pos held] at sole
    exact h.update sole (h.alive p _ held) nofun nofun nofun
  · exact h

lemma act (h : Orderly isAlive dataDir c) (turn : c.InTurn isAlive event) :
    Orderly isAlive dataDir (c.act isAlive dataDir event) := by
  obtain ⟨p, move⟩ := event
  cases move with
  | begins => exact h.begin turn
  | proceeds => exact h.proceed
  | drops => exact h.drop

/-- If nobody begins to take the lock while another is at it, nobody ousts another. -/
lemma throughout_not_ousts (h : Orderly isAlive dataDir c)
    (turns : c.Throughout isAlive dataDir (InTurn isAlive) events) :
    c.Throughout isAlive dataDir (fun c e => ¬ c.Ousts e) events := by
  induction events generalizing c with
  | nil => trivial
  | cons event events ih =>
    obtain ⟨turn, rest⟩ := turns
    exact ⟨h.not_ousts, ih (h.act turn) rest⟩

end Orderly

/-- As long as no process removes the lock file of another that holds the lock or is about to, at
most one process holds the lock, and the file that it will remove is its own. Nobody removes such a
file if the processes begin to take the lock one after the other. -/
theorem exclusive_unless_ousted (isAlive : ProcessId → Bool) (dataDir : Path) (tidy : d.Tidy)
    (events : List (ProcessId × Move)) :
    ((Crowd.start d).Throughout isAlive dataDir (InTurn isAlive) events →
      (Crowd.start d).Throughout isAlive dataDir (fun c e => ¬ c.Ousts e) events) ∧
    ((Crowd.start d).Throughout isAlive dataDir (fun c e => ¬ c.Ousts e) events →
      let c := (Crowd.start d).run isAlive dataDir events
      (∀ p q, c.stage p = some .held → c.stage q = some .held → p = q) ∧
      ∀ p, c.stage p = some .held → c.maker = some p ∧ holder? dataDir c.disk = some p) := by
  refine ⟨(Orderly.start tidy).throughout_not_ousts, fun calm => ?_⟩
  have first : Sole dataDir (Crowd.start d) := .start tidy
  have sole := first.run calm
  refine ⟨fun p q held held' => ?_, fun p held => sole.own_of_held held⟩
  exact sole.eq_of_inscription? (inscription?_of_stage held) (inscription?_of_stage held')

/-! ### Two processes -/

/-- A data directory with nothing in it but, perhaps, a lock file. -/
def directoryWith (lock? : Option String) : Disk :=
  ⟨Disk.top, (⟨Disk.top, "data"⟩, .directory 1) ::
    (lock?.map fun text => (⟨1, Lock.fileName⟩, Entry.file text)).toList⟩

/-- Of all processes, only two are alive. -/
def twoAlive (p : ProcessId) : Bool :=
  p = 1 || p = 2

/-- A process takes a lock that a dead one left, then another tries to take it. -/
def inTurn : List (ProcessId × Move) :=
  (1, .begins) :: List.replicate 5 (1, .proceeds) ++ (2, .begins) :: List.replicate 2 (2, .proceeds)

/-- Two processes, of which one begins when the other has read the lock file, and the other goes on
when that one holds the lock. -/
def crossing : List (ProcessId × Move) :=
  [(1, .begins), (1, .proceeds), (2, .begins)] ++ List.replicate 5 (2, .proceeds) ++
    List.replicate 5 (1, .proceeds)

lemma throughout_inTurn :
    (start (directoryWith (some "4194305"))).Throughout twoAlive "data" (InTurn twoAlive)
      inTurn := by
  simp only [inTurn, List.replicate, List.cons_append, List.nil_append, Throughout, InTurn,
    true_and, and_true]
  refine ⟨⟨rfl, nofun⟩, rfl, fun q stage at_stage => ?_⟩
  by_cases first : q = 1
  · subst first
    have held : ((start (directoryWith (some "4194305"))).run twoAlive "data"
        (inTurn.take 6)).stage 1 = some .held := by decide
    obtain rfl : Stage.held = stage := Option.some.inj (held.symm.trans at_stage)
    rfl
  · simp only [stage_act_of_ne first] at at_stage
    cases at_stage

/-- The other is refused, and the lock file has the number of the first. -/
theorem exclusive_in_turn : (directoryWith (some "4194305")).Tidy ∧
    let c := (start (directoryWith (some "4194305"))).run twoAlive "data" inTurn
    c.stage 1 = some .held ∧ c.stage 2 = some (.refused (.locked 1 "data")) ∧
      (∀ q, c.stage q = some .held → q = 1) ∧ c.maker = some 1 := by
  have tidy : (directoryWith (some "4194305")).Tidy := by
    simp [Disk.Tidy, directoryWith, Disk.top]
  obtain ⟨calm, exclusive⟩ := exclusive_unless_ousted twoAlive "data" tidy inTurn
  obtain ⟨unique, own⟩ := exclusive (calm throughout_inTurn)
  have held : ((start (directoryWith (some "4194305"))).run twoAlive "data" inTurn).stage 1
      = some .held := by decide
  exact ⟨tidy, held, by decide, fun q other => unique q 1 other held, (own 1 held).1⟩

/-- With a lock file of this text, or none, both processes come to hold the lock. When one of them
gives it back, it removes the file of the other, which holds it still. -/
def TakenTwice (lock? : Option String) : Prop :=
  let c := (start (directoryWith lock?)).run twoAlive "data" crossing
  let later := c.act twoAlive "data" (2, .drops)
  c.stage 1 = some .held ∧ c.stage 2 = some .held ∧ holder? "data" c.disk = some 1 ∧
    later.stage 1 = some .held ∧ later.disk = directoryWith none

/-- It is so whether there was no lock file, one that cannot be read or one of a dead process. -/
theorem lock_taken_twice :
    TakenTwice none ∧ TakenTwice (some "not a pid") ∧ TakenTwice (some "4194305") := by
  unfold TakenTwice
  decide

end Crowd

end Quorum.Lock
