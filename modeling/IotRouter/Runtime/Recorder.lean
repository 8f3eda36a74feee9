import IotRouter.Runtime.Interleaving

/-!
# Recorders of metrics

A program tells its recorder one thing at a time: that there is a series, and
what to add to it. Many origins do so at once, so the calls are kept with the
origin of each, in the order in which they take effect. A recorder is given by
what it shows after some calls; a lawful one shows what they add up to.

A scrape reads one series after the other while the calls go on. What it shows
is no state of the recorder, but each value is one that the series had while the
scrape went on.
-/

namespace IotRouter.Runtime

universe u v w

/-- The series of a recorder, each under its key. -/
inductive Series (Key : Type u) where
  | counter (key : Key)
  | histogram (key : Key)
  deriving DecidableEq, Repr

/-- What a program tells a recorder. -/
inductive Call (Key : Type u) (Sample : Type v) where
  | registerCounter (key : Key)
  | increment (key : Key) (value : UInt64)
  | registerHistogram (key : Key)
  | record (key : Key) (sample : Sample)

section Calls

variable {Key : Type u} {Sample : Type v} {Origin : Type w}

/-- The series that a call sees to be there. -/
def Call.registers : Call Key Sample → Option (Series Key)
  | .registerCounter key => some (.counter key)
  | .registerHistogram key => some (.histogram key)
  | .increment _ _ | .record _ _ => none

/-- The series there are after the calls. -/
def registered (calls : List (Call Key Sample)) : List (Series Key) :=
  calls.filterMap Call.registers

theorem registered_mono {before after : List (Call Key Sample)}
    (grows : before <+: after) {series : Series Key}
    (there : series ∈ registered before) : series ∈ registered after :=
  (grows.filterMap Call.registers).subset there

/-- What was told, by whatever origin. -/
def told (calls : List (Origin × Call Key Sample)) : List (Call Key Sample) :=
  calls.map Prod.snd

variable {calls first last : List (Origin × Call Key Sample)}

/-! ## What the calls add up to -/

section Total

variable [DecidableEq Key]

/-- What a call adds to a series: to a counter a value, to a histogram one more
sample. -/
def Call.adds (series : Series Key) : Call Key Sample → UInt64
  | .increment key value => if series = .counter key then value else 0
  | .record key _ => if series = .histogram key then 1 else 0
  | .registerCounter _ | .registerHistogram _ => 0

/-- What the calls add to a series, all together. -/
def total (series : Series Key) : List (Call Key Sample) → UInt64
  | [] => 0
  | call :: rest => call.adds series + total series rest

/-- The origins of the calls that add to a series. -/
def contributors (series : Series Key)
    (calls : List (Origin × Call Key Sample)) : List Origin :=
  (calls.filter fun entry => entry.2.adds series ≠ 0).map Prod.fst

/-- Where nothing adds more than one, the total is the number of contributions. -/
theorem total_eq_length_contributors {series : Series Key}
    (units : ∀ entry ∈ calls,
      entry.2.adds series = 0 ∨ entry.2.adds series = 1) :
    total series (told calls) =
      UInt64.ofNat (contributors series calls).length := by
  induction calls with
  | nil => rfl
  | cons entry calls ih =>
      rcases List.forall_mem_cons.mp units with ⟨unit, units⟩
      have rest := ih units
      simp only [told, contributors] at rest
      rcases unit with zero | one
      · simp [told, total, contributors, zero, rest]
      · simp [told, total, contributors, one, rest, UInt64.add_comm]

end Total

/-! ## Calls and their origins -/

section Origins

variable [DecidableEq Origin]

/-- The calls of one origin, in order. -/
def callsOf (calls : List (Origin × Call Key Sample)) (origin : Origin) :
    List (Call Key Sample) :=
  (part Prod.fst calls origin).map Prod.snd

theorem callsOf_concat_self (origin : Origin) (call : Call Key Sample) :
    callsOf (calls ++ [(origin, call)]) origin =
      callsOf calls origin ++ [call] := by
  simp [callsOf, part]

theorem callsOf_concat_of_ne {origin other : Origin} (different : other ≠ origin)
    (call : Call Key Sample) :
    callsOf (calls ++ [(origin, call)]) other = callsOf calls other := by
  simp [callsOf, part, Ne.symm different]

theorem mem_callsOf {origin : Origin} {call : Call Key Sample} :
    call ∈ callsOf calls origin ↔ (origin, call) ∈ calls := by
  simp [callsOf, part]

variable [DecidableEq Key] {series : Series Key}

theorem mem_contributors {origin : Origin} :
    origin ∈ contributors series calls ↔
      ∃ call ∈ callsOf calls origin, call.adds series ≠ 0 := by
  simp [contributors, mem_callsOf]

/-- An origin contributes as often as it makes a call that adds. -/
theorem count_contributors (origin : Origin) :
    (contributors series calls).count origin =
      (callsOf calls origin).countP fun call => call.adds series ≠ 0 := by
  simp only [contributors, callsOf, part, List.count, List.countP_map,
    List.countP_filter]
  apply List.countP_congr
  intro entry _
  simp [and_comm]

theorem contributors_nodup
    (once : ∀ origin, ((callsOf calls origin).countP fun call =>
      call.adds series ≠ 0) ≤ 1) : (contributors series calls).Nodup := by
  rw [List.nodup_iff_count_le_one]
  intro origin
  rw [count_contributors]
  exact once origin

end Origins

/-! ## Recorders -/

/-- A recorder, by what it shows of a series after these calls: the value of a
counter, or how many samples a histogram got. -/
structure Recorder (Key : Type u) (Sample : Type v) where
  shows : List (Call Key Sample) → Series Key → UInt64

namespace Recorder

variable [DecidableEq Key]

/-- A counter shows the sum of its increments, and a histogram the number of its
samples. -/
structure Lawful (recorder : Recorder Key Sample) : Prop where
  shows : ∀ calls series, recorder.shows calls series = total series calls

/-- The recorder that adds up what it is told. -/
def adding : Recorder Key Sample where
  shows calls series := total series calls

theorem adding_lawful : (adding : Recorder Key Sample).Lawful where
  shows _ _ := rfl

end Recorder

/-! ## Scrapes -/

/-- How far a scrape has come: the series it must show, and what it has read. -/
structure Scrape (Key : Type u) where
  ahead : List (Series Key)
  shown : List (Series Key × UInt64)

namespace Scrape

/-- A scrape shows at least the series that are there when it begins. -/
def begin (calls : List (Call Key Sample)) : Scrape Key where
  ahead := registered calls
  shown := []

/-- Nothing is left that must be read. -/
def Complete (scrape : Scrape Key) : Prop :=
  ∀ series ∈ scrape.ahead, series ∈ scrape.shown.map Prod.fst

variable [DecidableEq Key]

instance (scrape : Scrape Key) : Decidable scrape.Complete :=
  inferInstanceAs (Decidable (∀ series ∈ scrape.ahead, _))

/-- One more series is read. -/
def read (recorder : Recorder Key Sample) (calls : List (Call Key Sample))
    (scrape : Scrape Key) (series : Series Key) : Option (Scrape Key) :=
  if series ∈ registered calls ∧ series ∉ scrape.shown.map Prod.fst then
    some { scrape with
      shown := scrape.shown ++ [(series, recorder.shows calls series)] }
  else none

end Scrape

section Scraping

variable [DecidableEq Origin] (recorder : Recorder Key Sample)

/-- Each value was shown at a moment from `first` to `last`, at which `origin` had
made no call. -/
def Seen (origin : Origin) (first last : List (Origin × Call Key Sample))
    (shown : List (Series Key × UInt64)) : Prop :=
  ∀ entry ∈ shown, ∃ calls, first <+: calls ∧ calls <+: last ∧
    callsOf calls origin = [] ∧ entry.2 = recorder.shows (told calls) entry.1

/-- What a scrape by `origin` between `first` and `last` may show: every series
there was, each once, and with a value that it had in between. -/
structure Scraped (origin : Origin)
    (first last : List (Origin × Call Key Sample))
    (shown : List (Series Key × UInt64)) : Prop where
  all : ∀ series ∈ registered (told first), series ∈ shown.map Prod.fst
  once : (shown.map Prod.fst).Nodup
  seen : Seen recorder origin first last shown

/-- What holds of a scrape that `origin` has begun after `first`. -/
structure ScrapeWF (origin : Origin)
    (first last : List (Origin × Call Key Sample)) (scrape : Scrape Key) :
    Prop where
  ahead : ∀ series ∈ registered (told first), series ∈ scrape.ahead
  once : (scrape.shown.map Prod.fst).Nodup
  seen : Seen recorder origin first last scrape.shown

variable {recorder}
variable {origin : Origin} {next : List (Origin × Call Key Sample)}

theorem Seen.later {shown : List (Series Key × UInt64)}
    (seen : Seen recorder origin first last shown) (grows : last <+: next) :
    Seen recorder origin first next shown := by
  intro entry member
  rcases seen entry member with ⟨calls, since, before, silent, value⟩
  exact ⟨calls, since, before.trans grows, silent, value⟩

theorem Scraped.later {shown : List (Series Key × UInt64)}
    (scraped : Scraped recorder origin first last shown) (grows : last <+: next) :
    Scraped recorder origin first next shown where
  all := scraped.all
  once := scraped.once
  seen := scraped.seen.later grows

namespace ScrapeWF

variable {scrape after : Scrape Key}

theorem later (wf : ScrapeWF recorder origin first last scrape)
    (grows : last <+: next) : ScrapeWF recorder origin first next scrape where
  ahead := wf.ahead
  once := wf.once
  seen := wf.seen.later grows

theorem begin (grows : first <+: last) :
    ScrapeWF recorder origin first last (.begin (told last)) where
  ahead _ there := registered_mono (grows.map Prod.snd) there
  once := List.nodup_nil
  seen _ member := by cases member

theorem scraped (wf : ScrapeWF recorder origin first last scrape)
    (complete : scrape.Complete) :
    Scraped recorder origin first last scrape.shown where
  all series there := complete series (wf.ahead series there)
  once := wf.once
  seen := wf.seen

/-- What is read now is shown now. -/
theorem read [DecidableEq Key]
    (wf : ScrapeWF recorder origin first last scrape) (grows : first <+: last)
    (silent : callsOf last origin = []) {series : Series Key}
    (reads : scrape.read recorder (told last) series = some after) :
    ScrapeWF recorder origin first last after := by
  simp only [Scrape.read, Option.ite_none_right_eq_some, Option.some.injEq]
    at reads
  rcases reads with ⟨⟨_, new⟩, rfl⟩
  constructor
  · exact wf.ahead
  · rw [List.map_append, List.nodup_append]
    refine ⟨wf.once, List.nodup_singleton _, ?_⟩
    intro earlier member other same equal
    rw [List.map_singleton, List.mem_singleton] at same
    rw [equal, same] at member
    exact new member
  · intro entry member
    rcases List.mem_append.mp member with earlier | this
    · exact wf.seen entry earlier
    · rw [List.mem_singleton.mp this]
      exact ⟨last, grows, List.prefix_refl _, silent, rfl⟩

end ScrapeWF

end Scraping

end Calls

end IotRouter.Runtime
