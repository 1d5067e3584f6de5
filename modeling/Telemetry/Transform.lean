import Telemetry.Idle
import Telemetry.Instrument.Registry
import Telemetry.Naming.Basic
import Telemetry.Record.Basic

/-!
# From readings to records

An instrument is read and becomes a record, or nothing when it is idle or has no value, or an error.
Reading may change the instrument: a gauge goes on to its next reading and a meter catches up with
the clock. Adapters may change the draft of a record before it is built, and one of them adds to a
counter how far it moved since its last record.
-/

namespace Telemetry

open Number (WordArithmetic Overflow)

inductive TransformError where
  | gauge (name : String) (error : GaugeError)
  | record (error : RecordError)
  deriving DecidableEq, Repr

def TransformError.message : TransformError → String
  | gauge name error => "Gauge '" ++ name ++ "' could not be read: " ++ error.message
  | record error => "Invalid measurement: " ++ error.message

/-- What changes a draft before it becomes a record. -/
inductive Adapter where
  /-- Adds the movement of a counter since its last record, with the counts reported so far. -/
  | relativeCounts (previous : Dict Int64)
  | custom (adapt : String → Instrument → Draft → Draft)

namespace Adapter

def relative : Adapter := relativeCounts .empty

/-- The movement between two counts, which stops at the ends of the range. -/
def movement (previous count : Int64) : Int64 :=
  Number.clamp (count.toInt - previous.toInt)

def adapt (a : Adapter) (name : String) (i : Instrument) (d : Draft) : Draft × Adapter :=
  match a with
  | custom adapt => (adapt name i d, a)
  | relativeCounts previous =>
    match i with
    | .counter c =>
      let before := (previous.get? name).getD 0
      ((d.field "count" (.integer c.count)).field "relativeCount"
          (.integer (movement before c.count)),
        relativeCounts (previous.insert name c.count))
    | _ => (d, a)

/-- Drops what is kept for names that are not live. -/
def retain (a : Adapter) (live : String → Bool) : Adapter :=
  match a with
  | relativeCounts previous => relativeCounts (previous.filter fun name _ => live name)
  | custom _ => a

/-- Applies the adapters one after the other. -/
def adaptAll (name : String) (i : Instrument) : List Adapter → Draft → Draft × List Adapter
  | [], d => (d, [])
  | a :: as, d =>
    let (d, a) := a.adapt name i d
    let (d, as) := adaptAll name i as d
    (d, a :: as)

end Adapter

/-- The settings of a transform. -/
structure Context where
  /-- Multiplies a rate per second. -/
  rateFactor : Float
  /-- Divides a duration in nanoseconds. -/
  durationNanos : Float
  skipIdle : Bool
  naming : Naming

/-- What transforms remember from one report to the next. -/
structure Tracking where
  idle : IdleTracker
  adapters : List Adapter

namespace Tracking

def retain (t : Tracking) (live : String → Bool) : Tracking :=
  ⟨t.idle.retain live, t.adapters.map (·.retain live)⟩

end Tracking

namespace Context

def new (rateUnit durationUnit : TimeUnit) (skipIdle : Bool) (naming : Naming) : Context :=
  ⟨rateUnit.rateFactor, durationUnit.nanos.toUInt64.toFloat, skipIdle, naming⟩

def rate (ctx : Context) (perSecond : Float) : Float := perSecond * ctx.rateFactor

def duration (ctx : Context) (nanos : Float) : Float := nanos / ctx.durationNanos

def start (ctx : Context) (name : String) (timestamp : Int64) : Draft :=
  let (measurement, tags) := ctx.naming.resolve name
  (Draft.new measurement timestamp).tagAll tags.entries

/-- Whether the count is idle, and the tracker and warnings after looking, while differences wrap.
Counts are followed only while idle instruments are skipped. -/
def checkIdle (ctx : Context) (t : IdleTracker) (name : String) (count : Int64) :
    Bool × IdleTracker × List Warning :=
  if ctx.skipIdle then (t.idle name count, t.observe name count, t.regression name count)
  else (false, t, [])

end Context

/-- The count by which an instrument is idle or not. A gauge has none. -/
def Instrument.count? : Instrument → Option Int64
  | .counter c => some c.count
  | .gauge _ => none
  | .histogram h => some (Number.clampCount h.count)
  | .meter m => some (Number.clampCount m.count)
  | .timer t => some (Number.clampCount t.count)

/-- The draft of a record with what reading the instrument left behind. -/
structure Reading where
  draft : Except TransformError (Option Draft)
  instrument : Instrument
  idle : IdleTracker
  warnings : List Warning

namespace Reading

def percentileFields (d : Draft) (s : Sample) (convert : Float → Float) : Draft :=
  ((((d.field "50-percentile" (.float (convert s.median))).field
    "75-percentile" (.float (convert s.percentile75))).field
    "95-percentile" (.float (convert s.percentile95))).field
    "99-percentile" (.float (convert s.percentile99))).field
    "999-percentile" (.float (convert s.percentile999))

def rateFields (ctx : Context) (d : Draft) (r : Rates) : Draft :=
  (((d.field "one-minute" (.float (ctx.rate r.one))).field
    "five-minute" (.float (ctx.rate r.five))).field
    "fifteen-minute" (.float (ctx.rate r.fifteen))).field
    "mean-minute" (.float (ctx.rate r.mean))

def histogramFields (d : Draft) (h : Histogram) : Draft :=
  let s := h.sample
  let d := ((((d.field "count" (.ofUnsigned s.size.toUInt64)).field
    "min" (.integer s.least)).field
    "max" (.integer s.greatest)).field
    "mean" (.float s.mean)).field
    "std-dev" (.float s.standardDeviation)
  (percentileFields d s id).field "run-count" (.ofUnsigned h.count)

/-- The statistics of the durations in the unit of the context. -/
def durationFields (ctx : Context) (d : Draft) (s : Sample) : Draft :=
  let d := ((((d.field "count" (.ofUnsigned s.size.toUInt64)).field
    "min" (.float (ctx.duration s.least.toFloat))).field
    "max" (.float (ctx.duration s.greatest.toFloat))).field
    "mean" (.float (ctx.duration s.mean))).field
    "std-dev" (.float (ctx.duration s.standardDeviation))
  percentileFields d s ctx.duration

variable (ctx : Context) (idle : IdleTracker) (name : String) (now : UInt64) (timestamp : Int64)

def ofCounter (c : Counter) : Reading :=
  let (still, idle, warnings) := ctx.checkIdle idle name c.count
  let draft := if still then none
    else some ((ctx.start name timestamp).field "count" (.integer c.count))
  ⟨.ok draft, .counter c, idle, warnings⟩

/-- A gauge without a finite value has nothing to report. -/
def gaugeValue? : GaugeValue → Option FieldValue
  | .integer v => some (.integer v)
  | .float v => if Number.isFinite v then some (.float v) else none
  | .boolean v => some (.boolean v)
  | .text v => some (.text v)
  | .null => none

def ofGauge (g : Gauge) : Reading :=
  let (reading, g) := g.read
  let draft := match reading with
    | .error e => .error (.gauge name e)
    | .ok v => .ok ((gaugeValue? v).map ((ctx.start name timestamp).field "value"))
  ⟨draft, .gauge g, idle, []⟩

def ofHistogram (h : Histogram) : Reading :=
  let (still, idle, warnings) := ctx.checkIdle idle name (Number.clampCount h.count)
  let draft := if still then none else some (histogramFields (ctx.start name timestamp) h)
  ⟨.ok draft, .histogram h, idle, warnings⟩

/-- The rates of an idle meter are not read. -/
def ofMeter (m : Meter) : Reading :=
  let (still, idle, warnings) := ctx.checkIdle idle name (Number.clampCount m.count)
  if still then ⟨.ok none, .meter m, idle, warnings⟩
  else
    let (rates, m) := m.rates now
    let draft := (ctx.start name timestamp).field "count" (.ofUnsigned m.count)
    ⟨.ok (some (rateFields ctx draft rates)), .meter m, idle, warnings⟩

/-- An idle timer keeps its rates and leaves out the statistics of its durations. -/
def ofTimer (t : Timer) : Reading :=
  let (still, idle, warnings) := ctx.checkIdle idle name (Number.clampCount t.count)
  let draft := ctx.start name timestamp
  let draft := if still then draft else durationFields ctx draft t.sample
  let (rates, t) := t.rates now
  let draft := (rateFields ctx draft rates).field "run-count" (.ofUnsigned t.count)
  ⟨.ok (some draft), .timer t, idle, warnings⟩

/-- Reads an instrument at a tick of the clock. -/
def ofInstrument : Instrument → Reading
  | .counter c => ofCounter ctx idle name timestamp c
  | .gauge g => ofGauge ctx idle name timestamp g
  | .histogram h => ofHistogram ctx idle name timestamp h
  | .meter m => ofMeter ctx idle name now timestamp m
  | .timer t => ofTimer ctx idle name now timestamp t

end Reading

/-- The outcome of a transform with what it left behind. -/
structure Transformed where
  outcome : Except TransformError (Option Record)
  instrument : Instrument
  tracking : Tracking
  warnings : List Warning

/-- Reads an instrument, lets the adapters change the draft and builds the record. -/
def transform (ctx : Context) (tracking : Tracking) (name : String) (now : UInt64)
    (timestamp : Int64) (i : Instrument) : Transformed :=
  let reading := Reading.ofInstrument ctx tracking.idle name now timestamp i
  let leave (outcome : Except TransformError (Option Record)) (adapters : List Adapter) :
      Transformed :=
    ⟨outcome, reading.instrument, ⟨reading.idle, adapters⟩, reading.warnings⟩
  match reading.draft with
  | .error e => leave (.error e) tracking.adapters
  | .ok none => leave (.ok none) tracking.adapters
  | .ok (some draft) =>
    let (draft, adapters) := Adapter.adaptAll name reading.instrument tracking.adapters draft
    match draft.build with
    | .error e => leave (.error (.record e)) adapters
    | .ok record => leave (.ok (some record)) adapters

/-- A transform that ends where the difference to the baseline does. -/
def transformIn (m : WordArithmetic) (ctx : Context) (tracking : Tracking) (name : String)
    (now : UInt64) (timestamp : Int64) (i : Instrument) : Except Overflow Transformed :=
  let transformed := transform ctx tracking name now timestamp i
  match i.count? with
  | some count =>
    if ctx.skipIdle then (tracking.idle.delta m name count).map fun _ => transformed
    else .ok transformed
  | none => .ok transformed

end Telemetry
