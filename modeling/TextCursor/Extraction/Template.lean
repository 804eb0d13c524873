import TextCursor.Extraction.Extractor
import TextCursor.Extraction.Markup
import TextCursor.Extraction.Registry

/-!
# Templates

A template names registered choppers between literals: `x=` followed by `int` in braces reads an
integer behind `x=`. Building an extractor from it fixes the choppers; registrations that come
later do not change them.
-/

namespace TextCursor

/-- Why an extractor cannot be built from a template. -/
inductive TemplateFault where
  | malformed (template : Text) (fault : Markup.Fault)
  | decorated (name : Text)
  | unknownChopper (name : Text) (known : List Text)
  | shape (fault : ShapeFault)

/-- The wording of the fault. -/
def TemplateFault.message : TemplateFault → Text
  | malformed template fault =>
      Text.lit "Malformed template " ++ template.quote ++ Text.lit ": " ++ fault.message
  | decorated name =>
      Text.lit "Placeholder `\x7b" ++ name
        ++ Text.lit "\x7d` can't have a format spec or conversion."
  | unknownChopper name known =>
      Text.lit "Unknown chopper `" ++ name ++ Text.lit "`. Known: "
        ++ Text.join (Text.lit ", ") known
  | shape fault => fault.message

namespace Template

variable {ε α : Type}

/-- The chopper that a placeholder names. A placeholder may have neither a conversion nor a
specification, and that is looked at before its name is. -/
def chopperOf (registry : Registry ε α) (p : Markup.Placeholder) :
    Except TemplateFault (Chopper ε α) :=
  if !p.spec.isEmpty || p.conversion.isSome then .error (.decorated p.name)
  else
    match registry.find? p.name with
    | some chopper => .ok chopper
    | none => .error (.unknownChopper p.name registry.names)

/-- The extractor that the items describe, where `literal` has been read since the last
placeholder, last character first. -/
def assemble (registry : Registry ε α) (literal : Text) :
    List Markup.Item → Except TemplateFault (Extractor ε α)
  | [] => .ok ⟨[], literal.reverse⟩
  | .char c :: later => assemble registry (c :: literal) later
  | .placeholder p :: later =>
      match chopperOf registry p with
      | .error fault => .error fault
      | .ok chopper =>
          (assemble registry [] later).map fun rest =>
            { rest with fields := (literal.reverse, chopper) :: rest.fields }

/-- The extractor that a template describes. The whole text is read before any of its placeholders
is looked at. -/
def build (registry : Registry ε α) (template : Text) :
    Except TemplateFault (Extractor ε α) :=
  match Markup.items template with
  | .error fault => .error (.malformed template fault)
  | .ok items => assemble registry [] items

end Template

end TextCursor
