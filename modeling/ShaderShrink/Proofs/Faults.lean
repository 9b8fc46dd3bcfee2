import ShaderShrink.Image.Comparison
import ShaderShrink.Pattern.ErrorString
import ShaderShrink.Proofs.Effect
import ShaderShrink.Shader.Storage

/-!
# Which faults are possible

The faults with which an action can end are those of its parts.  Nothing that works on files, shaders or images
blames the usage for its faults.
-/

namespace ShaderShrink

namespace Effect

variable {σ ε α β : Type} {possible : ε → Prop}

/-- Whether an action ends with none but possible faults. -/
def Raises (possible : ε → Prop) (action : EStateM ε σ α) : Prop :=
  ∀ state fault left, action state = .error fault left → possible fault

/-- Whether a computation ends with none but possible faults. -/
def FailsWith (possible : ε → Prop) (result : Except ε α) : Prop := ∀ fault, result = .error fault → possible fault

namespace FailsWith

variable {first : Except ε α} {next : α → Except ε β} {fault : ε}

theorem ok (value : α) : FailsWith possible (.ok value : Except ε α) := nofun

theorem error (isPossible : possible fault) : FailsWith possible (.error fault : Except ε α) := by
  intro other same
  cases same
  exact isPossible

theorem bind (begins : FailsWith possible first) (rest : ∀ value, FailsWith possible (next value)) :
    FailsWith possible (first >>= next) := by
  intro fault failed
  cases run : first with
  | ok value => exact rest value fault (by rwa [run] at failed)
  | error other =>
    rw [run] at failed
    cases failed
    exact begins fault run

theorem mapM {items : List α} {f : α → Except ε β} (each : ∀ item, FailsWith possible (f item)) :
    FailsWith possible (items.mapM f) := by
  induction items with
  | nil => exact .ok []
  | cons item rest ih =>
    rw [List.mapM_cons]
    exact (each item).bind fun _ => ih.bind fun _ => .ok _

end FailsWith

namespace Raises

variable {action : EStateM ε σ α} {next : α → EStateM ε σ β} {fault : ε}

theorem ofPure (value : α) : Raises possible (pure value : EStateM ε σ α) := fun _ _ _ => nofun

theorem ofThrow (isPossible : possible fault) : Raises possible (throw fault : EStateM ε σ α) := by
  intro state other left failed
  cases failed
  exact isPossible

theorem ofGet : Raises possible (get : EStateM ε σ σ) := fun _ _ _ => nofun

theorem ofModify (update : σ → σ) : Raises possible (modify update : EStateM ε σ PUnit) := fun _ _ _ => nofun

theorem bind (begins : Raises possible action) (rest : ∀ value, Raises possible (next value)) :
    Raises possible (action >>= next) := by
  intro state fault left failed
  rcases bind_error failed with failed | ⟨value, middle, -, failed⟩
  · exact begins _ _ _ failed
  · exact rest value _ _ _ failed

/-- The fault of an attempt is that of its handler. -/
theorem ofTry {handle : ε → EStateM ε σ α} {tried : ε → Prop} (begins : Raises tried action)
    (rest : ∀ fault, tried fault → Raises possible (handle fault)) : Raises possible (tryCatch action handle) := by
  intro state fault left failed
  cases run : action state with
  | ok value middle => rw [try_of_ok run] at failed; cases failed
  | error other middle =>
    rw [try_of_error run] at failed
    exact rest other (begins _ _ _ run) _ _ _ failed

end Raises

end Effect

open Effect

variable {σ α : Type}

/-- Whether a fault does not blame the usage. -/
def Fault.Blameless (fault : Fault) : Prop := fault.isUsage = false

/-! ## Files -/

namespace Action

theorem raises_ofExcept {possible : Fault → Prop} {result : Except Fault α} (fails : FailsWith possible result) :
    Raises possible (ofExcept result : Action σ α) := by
  cases result with
  | ok value => exact .ofPure value
  | error fault => exact .ofThrow (fails fault rfl)

theorem blameless_fileFault (failure : SystemFailure) (path : Path) : (fileFault failure path).Blameless := by
  cases failure <;> rfl

theorem blameless_log (level : Level) (message : String) : Raises Fault.Blameless (log level message : Action σ Unit) :=
  .ofModify _

theorem blameless_files : Raises Fault.Blameless (files : Action σ FileTree) := .bind .ofGet fun _ => .ofPure _

theorem blameless_filesFor (path : Path) : Raises Fault.Blameless (filesFor path : Action σ FileTree) :=
  .bind blameless_files fun tree => by
    split
    · exact .ofPure tree
    · exact .ofThrow (blameless_fileFault _ path)

theorem blameless_isFile (path : Path) : Raises Fault.Blameless (isFile path : Action σ Bool) :=
  .bind (blameless_filesFor path) fun _ => .ofPure _

theorem blameless_isPresent (path : Path) : Raises Fault.Blameless (isPresent path : Action σ Bool) :=
  .bind (blameless_filesFor path) fun _ => .ofPure _

theorem blameless_changeFiles (path : Path) (change : FileTree → Except SystemFailure FileTree) :
    Raises Fault.Blameless (changeFiles path change : Action σ Unit) :=
  .bind blameless_files fun tree => by
    split
    · exact .ofModify _
    · exact .ofThrow (blameless_fileFault _ path)

theorem blameless_readBytes (path : Path) : Raises Fault.Blameless (readBytes path : Action σ ByteArray) :=
  .bind blameless_files fun tree => by
    split
    · exact .ofPure _
    · exact .ofThrow (blameless_fileFault _ path)

theorem blameless_readText (path : Path) : Raises Fault.Blameless (readText path : Action σ Text) :=
  .bind (blameless_readBytes path) fun content => by
    split
    · exact .ofPure _
    · exact .ofThrow rfl

theorem blameless_writeBytes (path : Path) (content : ByteArray) :
    Raises Fault.Blameless (writeBytes path content : Action σ Unit) := blameless_changeFiles path _

theorem blameless_makeDirectories (path : Path) : Raises Fault.Blameless (makeDirectories path : Action σ Unit) :=
  blameless_changeFiles path _

theorem blameless_touch (path : Path) : Raises Fault.Blameless (touch path : Action σ Unit) :=
  .bind blameless_files fun tree => by
    split
    · exact blameless_writeBytes path _
    · exact .ofPure _

theorem blameless_remove (path : Path) : Raises Fault.Blameless (remove path : Action σ Unit) :=
  blameless_changeFiles path _

theorem blameless_copy (source target : Path) : Raises Fault.Blameless (copy source target : Action σ Unit) :=
  .bind (blameless_readBytes source) fun _ => blameless_writeBytes target _

theorem blameless_withScratch {act : Path → Action σ α} (blameless : ∀ path, Raises Fault.Blameless (act path)) :
    Raises Fault.Blameless (withScratch act) := by
  refine .bind .ofGet fun world => .bind (blameless_makeDirectories _) fun _ => ?_
  refine .bind (.ofTry (blameless _) fun fault isBlameless => ?_) fun value => .bind (.ofModify _) fun _ => .ofPure value
  exact .bind (.ofModify _) fun _ => .ofThrow isBlameless

theorem blameless_writeJson (path : Path) (value : Json) : Raises Fault.Blameless (writeJson path value : Action σ Unit) :=
  .bind (blameless_makeDirectories _) fun _ => by
    split
    · exact blameless_writeBytes path _
    · exact .ofThrow rfl

end Action

theorem Path.blameless_withName (path : Path) (name : String) : FailsWith Fault.Blameless (path.withName name) := by
  unfold withName
  split
  · exact .error rfl
  · exact .ok _

theorem Shader.blameless_store (shader : Shader) (stem : Path) : Raises Fault.Blameless (shader.store stem : Action σ Path) :=
  .bind (Action.raises_ofExcept (Path.blameless_withName stem _)) fun path =>
    .bind (Action.blameless_makeDirectories _) fun _ => .bind (Action.blameless_writeBytes path _) fun _ =>
      .bind (Action.raises_ofExcept (Path.blameless_withName stem _)) fun sidecar =>
        .bind (Action.blameless_writeJson sidecar _) fun _ => .ofPure path

/-! ## Images -/

namespace Pixmap

private theorem blameless_word (bytes : List UInt8) : FailsWith Fault.Blameless (word bytes) := by
  unfold word
  dsimp only
  split
  · exact .error rfl
  · split
    · exact .error rfl
    · exact .ok _

private theorem blameless_wholeOfWord (word : List UInt8) : FailsWith Fault.Blameless (wholeOfWord word) := by
  unfold wholeOfWord
  dsimp only
  split
  · exact .ok _
  · exact .error rfl

private theorem blameless_number (bytes : List UInt8) : FailsWith Fault.Blameless (number bytes) :=
  (blameless_word bytes).bind fun _ => (blameless_wholeOfWord _).bind fun _ => .ok _

private theorem blameless_checkFactor (bytes : List UInt8) : FailsWith Fault.Blameless (checkFactor bytes) :=
  (blameless_word bytes).bind fun _ => by
    dsimp only
    split
    · exact .error rfl
    · split
      · exact .ok _
      · exact .error rfl

private theorem blameless_header (kind : Kind) (plain : Bool) (bytes : List UInt8) :
    FailsWith Fault.Blameless (header kind plain bytes) := by
  refine (blameless_number bytes).bind fun _ => (blameless_number _).bind fun _ => ?_
  dsimp only
  split
  · exact .ok _
  · exact (blameless_checkFactor _).bind fun _ => .ok _
  · refine (blameless_number _).bind fun _ => ?_
    split
    · exact .ok _
    · exact .error rfl

private theorem blameless_digitSamples (area : Nat) (bytes : List UInt8) :
    FailsWith Fault.Blameless (digitSamples area bytes) := by
  unfold digitSamples
  dsimp only
  split
  · exact .error rfl
  · exact .ok _

private theorem blameless_numeralSample (header : Header) (word : List UInt8) :
    FailsWith Fault.Blameless (numeralSample header word) := by
  have rest : FailsWith Fault.Blameless (do
      let value ← wholeOfWord word
      if value < 0 then throw (.value ("Channel value is negative: " ++ toString value))
      else if header.greatest < value then
        throw (.value ("Channel value too large for this mode: " ++ toString value))
      else return header.scaled value.toNat) := by
    refine (blameless_wholeOfWord word).bind fun value => ?_
    split
    · exact .error rfl
    · split
      · exact .error rfl
      · exact .ok _
  unfold numeralSample
  split
  · exact .error rfl
  · exact rest

private theorem blameless_samplesOf (header : Header) (bytes : List UInt8) :
    FailsWith Fault.Blameless (samplesOf header bytes) := by
  have enough : ∀ found : List UInt8, FailsWith Fault.Blameless
      (if found.length < header.area * header.bands then throw (.value "not enough image data") else return found :
        Except Fault (List UInt8)) := by
    intro found
    split
    · exact .error rfl
    · exact .ok _
  unfold samplesOf
  dsimp only
  split
  · split
    · exact (blameless_digitSamples _ _).bind enough
    · exact (FailsWith.mapM (blameless_numeralSample header)).bind enough
  · split
    · split
      · exact .ok _
      · exact .error rfl
    · split
      · exact .ok _
      · split
        · exact .error rfl
        · exact .error rfl

end Pixmap

/-- Whether a file, if it is a picture that cannot be read, is so for a possible fault. -/
private def Picture.Reading.FailsWith (possible : Fault → Prop) (reading : Picture.Reading) : Prop :=
  ∀ fault, reading = .fault fault → possible fault

private theorem Picture.Reading.blameless_sized (width height : Nat) {rest : Unit → Picture.Reading}
    (blameless : (rest ()).FailsWith Fault.Blameless) : (sized width height rest).FailsWith Fault.Blameless := by
  unfold sized
  split
  · exact fun _ => nofun
  · split
    · rintro _ ⟨⟩
      rfl
    · exact blameless

private theorem Pixmap.blameless_read (bytes : ByteArray) : (read bytes).FailsWith Fault.Blameless := by
  unfold read
  split
  · exact fun _ => nofun
  · split
    · rename_i fault failed
      rintro _ ⟨⟩
      exact blameless_header _ _ _ _ failed
    · refine Picture.Reading.blameless_sized _ _ ?_
      split
      · rename_i fault failed
        rintro _ ⟨⟩
        exact blameless_samplesOf _ _ _ failed
      · split <;> exact fun _ => nofun

private theorem Png.blameless_read (bytes : ByteArray) : (read bytes).FailsWith Fault.Blameless := by
  have truncated : (Picture.Reading.fault Picture.truncated).FailsWith Fault.Blameless := by
    rintro _ ⟨⟩
    rfl
  unfold read
  split
  · exact fun _ => nofun
  · split
    · exact fun _ => nofun
    · exact truncated
    · dsimp only
      split
      · exact fun _ => nofun
      · refine Picture.Reading.blameless_sized _ _ ?_
        split
        · exact fun _ => nofun
        · exact truncated

theorem Picture.blameless_ofBytes (content : ByteArray) : FailsWith Fault.Blameless (ofBytes content) := by
  unfold ofBytes
  cases pixmap : Pixmap.read content with
  | picture picture => exact .ok _
  | fault fault => exact .error (Pixmap.blameless_read content fault pixmap)
  | unknown =>
    dsimp only
    cases png : Png.read content with
    | picture picture => exact .ok _
    | fault fault => exact .error (Png.blameless_read content fault png)
    | unknown => exact .error rfl

theorem Picture.blameless_load (path : Path) : Raises Fault.Blameless (load path : Action σ Picture) :=
  .bind (Action.blameless_readBytes path) fun _ => Action.raises_ofExcept (blameless_ofBytes _)

theorem Comparison.blameless_acceptsFiles (comparison : Comparison) (image reference : Path) :
    Raises Fault.Blameless (comparison.acceptsFiles image reference : Action σ Bool) :=
  .bind (Picture.blameless_load image) fun _ => .bind (Picture.blameless_load reference) fun _ => .ofPure _

/-! ## Patterns -/

theorem Pattern.blameless_fullMatch (node : Pattern.Node) (text : Text) : FailsWith Fault.Blameless (node.fullMatch text) := by
  unfold Node.fullMatch
  split
  · exact .error rfl
  · exact .ok _

theorem Pattern.blameless_accepts (pattern : Option Pattern.Node) (text : Text) :
    FailsWith Fault.Blameless (accepts pattern text) := by
  cases pattern with
  | none => exact .ok true
  | some node => exact blameless_fullMatch node text

end ShaderShrink
