import Mathlib.Data.List.Basic

/-! The x264 encoder element of `mmids-gstreamer` without GStreamer: how `get_number` reads a
numeric parameter, what `X264Encoder::new` sets on the capsfilter and the encoder from the
parameters, and what `sample_received` sends on the media channel over the appsink's
`new_sample` callbacks. What the pipeline's elements hand back (the output parser's codec data,
a pulled sample) is an input here and may be an error. -/

set_option autoImplicit false

namespace Mmids.Gstreamer.Encoders

/-! ## `get_number` -/

def decimalStep (value : Nat) (c : Char) : Nat :=
  10 * value + (c.toNat - '0'.toNat)

def decimalValue (digits : List Char) : Nat :=
  digits.foldl decimalStep 0

def pushDigit (value : Nat) (c : Char) : Option Nat :=
  if c.isDigit then
    if decimalStep value c < UInt32.size then some (decimalStep value c) else none
  else none

/-- `u32::from_str`: an optional `+`, then at least one decimal digit, with no overflow. -/
def parseU32 (text : String) : Option Nat :=
  match text.toList with
  | [] | ['+'] => none
  | '+' :: digits => digits.foldlM pushDigit 0
  | digits => digits.foldlM pushDigit 0

/-- `get_number`: the parameter's value read as a `u32`, or `None` when it is missing, has no
value, or is not a number (the source then warns). -/
def getNumber (parameters : String → Option (Option String)) (key : String) : Option Nat :=
  match parameters key with
  | some (some inner) => parseU32 inner
  | _ => none

theorem le_foldl_decimalStep (digits : List Char) (value : Nat) :
    value ≤ digits.foldl decimalStep value := by
  induction digits generalizing value with
  | nil => exact Nat.le_refl _
  | cons c rest ih => exact Nat.le_trans (by unfold decimalStep; omega) (ih _)

theorem foldlM_pushDigit {digits : List Char} {value n : Nat} (bounded : value < UInt32.size) :
    digits.foldlM pushDigit value = some n ↔
      (∀ c ∈ digits, c.isDigit) ∧ digits.foldl decimalStep value = n ∧ n < UInt32.size := by
  induction digits generalizing value with
  | nil =>
    simp only [List.foldlM_nil, List.not_mem_nil, false_implies, implies_true, List.foldl_nil,
      true_and]
    exact ⟨fun pure => by cases pure; exact ⟨rfl, bounded⟩, fun ⟨same, _⟩ => by rw [same]; rfl⟩
  | cons c rest ih =>
    rw [List.foldlM_cons, List.foldl_cons, List.forall_mem_cons]
    by_cases digit : c.isDigit
    · by_cases fits : decimalStep value c < UInt32.size
      · rw [pushDigit, if_pos digit, if_pos fits]
        show rest.foldlM pushDigit (decimalStep value c) = some n ↔ _
        rw [ih fits]
        simp only [digit, true_and]
      · rw [pushDigit, if_pos digit, if_neg fits]
        have grows := le_foldl_decimalStep rest (decimalStep value c)
        exact ⟨(fun none => by cases none), fun ⟨_, computed, bounded⟩ => by omega⟩
    · rw [pushDigit, if_neg digit]
      exact ⟨(fun none => by cases none), fun ⟨⟨isDigit, _⟩, _⟩ => absurd isDigit digit⟩

theorem not_isDigit_plus : ¬ ('+' : Char).isDigit := by decide

theorem parseU32_eq_some {text : String} {n : Nat} : parseU32 text = some n ↔
    ∃ digits, (text.toList = digits ∨ text.toList = '+' :: digits) ∧ digits ≠ [] ∧
      (∀ c ∈ digits, c.isDigit) ∧ decimalValue digits = n ∧ n < UInt32.size := by
  have zero : (0 : Nat) < UInt32.size := by decide
  unfold parseU32 decimalValue
  split
  · rename_i empty
    refine ⟨(fun none => by cases none), fun ⟨digits, shape, nonempty, _⟩ => ?_⟩
    rw [empty] at shape
    rcases shape with rfl | impossible
    · exact absurd rfl nonempty
    · cases impossible
  · rename_i plus
    refine ⟨(fun none => by cases none), fun ⟨digits, shape, nonempty, isDigit, _⟩ => ?_⟩
    rw [plus] at shape
    rcases shape with rfl | ⟨-, rfl⟩
    · exact absurd (isDigit '+' (List.mem_singleton_self _)) not_isDigit_plus
    · exact absurd rfl nonempty
  · rename_i digits nonempty signed
    rw [foldlM_pushDigit zero, signed]
    constructor
    · exact fun accepted => ⟨digits, .inr rfl, nonempty, accepted⟩
    · rintro ⟨digits', shape, -, isDigit, accepted⟩
      rcases shape with unsigned | ⟨-, rfl⟩
      · exact absurd (isDigit '+' (unsigned ▸ List.mem_cons_self _ _)) not_isDigit_plus
      · exact ⟨isDigit, accepted⟩
  · rename_i empty _ unsigned
    rw [foldlM_pushDigit zero]
    constructor
    · exact fun accepted => ⟨text.toList, .inl rfl, empty, accepted⟩
    · rintro ⟨digits, shape, -, accepted⟩
      rcases shape with rfl | signed
      · exact accepted
      · exact absurd signed (unsigned digits)

example : parseU32 "+42" = some 42 := rfl
example : parseU32 "4294967295" = some 4294967295 := rfl
example : parseU32 "4294967296" = none := rfl
example : parseU32 "-1" = none := rfl

/-- What `get_number` returns: the value of a present parameter made of an optional `+` and one
or more decimal digits, when that value is at most `u32::MAX`; `None` otherwise. -/
theorem getNumber_eq_some {parameters : String → Option (Option String)} {key : String}
    {n : Nat} : getNumber parameters key = some n ↔ ∃ text, parameters key = some (some text) ∧
      ∃ digits, (text.toList = digits ∨ text.toList = '+' :: digits) ∧ digits ≠ [] ∧
        (∀ c ∈ digits, c.isDigit) ∧ decimalValue digits = n ∧ n < UInt32.size := by
  unfold getNumber
  split
  · rename_i text found
    rw [parseU32_eq_some]
    refine ⟨fun parsed => ⟨text, found, parsed⟩, fun ⟨text', found', parsed⟩ => ?_⟩
    rw [found] at found'
    cases found'
    exact parsed
  · rename_i absent
    exact ⟨(fun none => by cases none), fun ⟨text, found, _⟩ => absurd found (absent text)⟩

/-! ## The caps and properties of `X264Encoder::new` -/

inductive CapsValue where
  | u32 (value : Nat)
  | fraction (numerator denominator : Int)
  deriving DecidableEq, Repr

/-- `value as i32` for a `u32`: its 32 bits read in two's complement. -/
def asI32 (value : Nat) : Int :=
  (BitVec.ofNat 32 value).toInt

structure EncoderSettings where
  caps : List (String × CapsValue)
  properties : List (String × String)
  deriving DecidableEq, Repr

/-- The settings `X264Encoder::new` takes from its parameters: `height`, `width` and `fps` through
`get_number`, `preset` as given; a caps field for each number found, the framerate as
`Fraction::new(fps as i32, 1)`; `tune` always `zerolatency`, `speed-preset` when a preset is given. -/
def encoderSettings (parameters : String → Option (Option String)) : EncoderSettings :=
  let height := getNumber parameters "height"
  let width := getNumber parameters "width"
  let preset := (parameters "preset").getD none
  let fps := getNumber parameters "fps"
  { caps := (height.map fun height => ("height", .u32 height)).toList ++
      (width.map fun width => ("width", .u32 width)).toList ++
      (fps.map fun fps => ("framerate", .fraction (asI32 fps) 1)).toList
    properties := ("tune", "zerolatency") ::
      (preset.map fun preset => ("speed-preset", preset)).toList }

example : (encoderSettings fun key => if key = "fps" then some (some "4294967295") else none) =
    ⟨[("framerate", .fraction (-1) 1)], [("tune", "zerolatency")]⟩ := by decide

/-! ## `sample_received` -/

inductive VideoCodec where
  | h264
  deriving DecidableEq, Repr

structure Video (Bytes Timestamp : Type) where
  codec : VideoCodec
  timestamp : Timestamp
  isSequenceHeader : Bool
  isKeyframe : Bool
  data : Bytes
  deriving DecidableEq, Repr

structure SampleResult (Bytes Timestamp : Type) where
  content : Bytes
  timestamp : Timestamp
  deriving DecidableEq, Repr

/-- The state of the `new_sample` callback, `sent_codec_data`, and every video it has sent on
`media_sender`. -/
structure Sink (Bytes Timestamp : Type) where
  codecDataSent : Bool
  media : List (Video Bytes Timestamp)
  deriving DecidableEq, Repr

variable {Bytes Timestamp : Type} (fromZero : Timestamp)

def sendCodecData (sink : Sink Bytes Timestamp) (codecData : Except String Bytes) :
    Except String (Sink Bytes Timestamp) :=
  if sink.codecDataSent then .ok sink
  else codecData.map fun data => ⟨true, sink.media ++ [⟨.h264, fromZero, true, false, data⟩]⟩

/-- `sample_received`, given what `get_codec_data_from_element` and `SampleResult::from_sink`
return. -/
def sampleReceived (sink : Sink Bytes Timestamp) (codecData : Except String Bytes)
    (sample : Except String (SampleResult Bytes Timestamp)) :
    Except String Unit × Sink Bytes Timestamp :=
  match sendCodecData fromZero sink codecData with
  | .error error => (.error error, sink)
  | .ok sink =>
    match sample with
    | .error _ => (.error "Failed to get x264enc sample", sink)
    | .ok sample => (.ok (),
        { sink with media := sink.media ++ [⟨.h264, sample.timestamp, false, false, sample.content⟩] })

theorem sampleReceived_error {sink : Sink Bytes Timestamp} {codecData : Except String Bytes}
    {sample : Except String (SampleResult Bytes Timestamp)} {error : String}
    (failed : (sampleReceived fromZero sink codecData sample).1 = .error error) :
    (sendCodecData fromZero sink codecData = .error error ∧
      (sampleReceived fromZero sink codecData sample).2 = sink) ∨
    (error = "Failed to get x264enc sample" ∧ ∃ sent, sendCodecData fromZero sink codecData = .ok sent ∧
      (sampleReceived fromZero sink codecData sample).2 = sent) := by
  revert failed
  unfold sampleReceived
  cases sendCodecData fromZero sink codecData with
  | error error' => rintro ⟨⟩; exact .inl ⟨rfl, rfl⟩
  | ok sent =>
    cases sample with
    | error _ => rintro ⟨⟩; exact .inr ⟨rfl, sent, rfl, rfl⟩
    | ok _ => rintro ⟨⟩

def runCallbacks
    (callbacks : List (Except String Bytes × Except String (SampleResult Bytes Timestamp))) :
    Sink Bytes Timestamp :=
  callbacks.foldl (fun sink callback => (sampleReceived fromZero sink callback.1 callback.2).2)
    ⟨false, []⟩

/-! ## What the callbacks send -/

def pulledVideo : Except String (SampleResult Bytes Timestamp) → Option (Video Bytes Timestamp)
  | .ok sample => some ⟨.h264, sample.timestamp, false, false, sample.content⟩
  | .error _ => none

/-- What a run of callbacks sends, said without the callback's state: nothing before the first
callback that obtains codec data; from it on, that codec data as the one sequence header at
`VideoTimestamp::from_zero()`, then the sample of that callback and of each later one whose pull
succeeds, in callback order. -/
def headerThenSamples
    (callbacks : List (Except String Bytes × Except String (SampleResult Bytes Timestamp))) :
    List (Video Bytes Timestamp) :=
  match callbacks.dropWhile fun callback => !callback.1.toBool with
  | (.ok data, sample) :: later =>
    ⟨.h264, fromZero, true, false, data⟩ :: (sample :: later.map Prod.snd).filterMap pulledVideo
  | _ => []

section
variable (sample : Except String (SampleResult Bytes Timestamp))

theorem sampleReceived_of_sent {sink : Sink Bytes Timestamp} (sent : sink.codecDataSent = true)
    (codecData : Except String Bytes) :
    (sampleReceived fromZero sink codecData sample).2 =
      ⟨true, sink.media ++ (pulledVideo sample).toList⟩ := by
  obtain ⟨sent', media⟩ := sink
  subst sent
  cases sample <;> simp [sampleReceived, sendCodecData, pulledVideo]

theorem sampleReceived_unobtained (error : String) :
    (sampleReceived fromZero ⟨false, []⟩ (.error error) sample).2 = ⟨false, []⟩ := rfl

theorem sampleReceived_obtained (data : Bytes) :
    (sampleReceived fromZero ⟨false, []⟩ (.ok data) sample).2 =
      ⟨true, ⟨.h264, fromZero, true, false, data⟩ :: (pulledVideo sample).toList⟩ := by
  cases sample <;> rfl

end

theorem foldl_of_sent {sink : Sink Bytes Timestamp} (sent : sink.codecDataSent = true)
    (callbacks : List (Except String Bytes × Except String (SampleResult Bytes Timestamp))) :
    callbacks.foldl (fun sink callback => (sampleReceived fromZero sink callback.1 callback.2).2)
        sink = ⟨true, sink.media ++ (callbacks.map Prod.snd).filterMap pulledVideo⟩ := by
  induction callbacks generalizing sink with
  | nil => cases sink; subst sent; simp
  | cons callback callbacks ih =>
    rw [List.foldl_cons, sampleReceived_of_sent fromZero _ sent, ih rfl]
    cases found : pulledVideo callback.2 <;> simp [List.filterMap_cons, found]

/-- Over any run of the appsink's `new_sample` callbacks, whatever the output parser and the
pulls return, the encoder has sent codec data exactly when some callback obtained it, and what it
has sent on `media_sender` is exactly `headerThenSamples`: nothing before the first callback that
obtains codec data, then that codec data once, as the only sequence header, then the sample of
every pull that succeeded from that callback on, in order, none a sequence header or a keyframe. -/
theorem media_header_then_samples
    (callbacks : List (Except String Bytes × Except String (SampleResult Bytes Timestamp))) :
    runCallbacks fromZero callbacks =
      ⟨callbacks.any (fun callback => callback.1.toBool), headerThenSamples fromZero callbacks⟩ := by
  induction callbacks with
  | nil => rfl
  | cons callback callbacks ih =>
    obtain ⟨codecData, sample⟩ := callback
    rw [runCallbacks, List.foldl_cons]
    cases codecData with
    | error error =>
      rw [sampleReceived_unobtained fromZero sample error, ← runCallbacks, ih]
      simp [headerThenSamples, Except.toBool]
    | ok data =>
      rw [sampleReceived_obtained fromZero sample data, foldl_of_sent fromZero rfl]
      cases found : pulledVideo sample <;>
        simp [headerThenSamples, Except.toBool, List.filterMap_cons, found]

theorem parserFailures_header_then_samples :
    runCallbacks 0 [((.error "no caps" : Except String Nat),
        (.ok ⟨1, 1⟩ : Except String (SampleResult Nat Nat))), (.ok 5, .error "no sample"),
        (.error "no caps", .ok ⟨9, 7⟩)] =
      ⟨true, [⟨.h264, 0, true, false, 5⟩, ⟨.h264, 7, false, false, 9⟩]⟩ :=
  media_header_then_samples 0 _

end Mmids.Gstreamer.Encoders
