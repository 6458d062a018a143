import EditGuard.Fault
import EditGuard.Layers.Ruleset
import EditGuard.Toml.Shape

/-! # Rulesets from TOML -/

namespace EditGuard.Layers

open Imports Toml

def Layer.shape : RecordShape Layer where
  fields := [
    .reading "name" true Value.readString fun l v => { l with name := v },
    .reading "allows" false Value.readStrings fun l v => { l with allows := v }]

def PathRule.shape : RecordShape PathRule where
  fields := [
    .reading "extensions" true Value.readStrings fun r v => { r with extensions := v },
    .reading "fragments" false Value.readStrings fun r v => { r with fragments := v },
    .reading "layer" true Value.readString fun r v => { r with layer := v }]

def ImportRule.shape : RecordShape ImportRule where
  fields := [
    .reading "fragments" true Value.readStrings fun r v => { r with fragments := v },
    .reading "layer" true Value.readString fun r v => { r with layer := v }]

def readImportSyntax (v : Value) : Except ShapeFault ImportSyntax :=
  v.readVariant ImportSyntax.ofName? (ImportSyntax.all.map (·.name))

namespace Ecosystem

def blank : Ecosystem := ⟨"", "", "", .java, [], [], []⟩

def shape : RecordShape Ecosystem where
  fields := [
    .reading "name" true Value.readString fun e v => { e with name := v },
    .reading "title" false Value.readString fun e v => { e with title := v },
    .reading "rule" true Value.readString fun e v => { e with rule := v },
    .reading "syntax" true readImportSyntax fun e v => { e with importSyntax := v },
    .reading "layers" false (Value.readList (Layer.shape.read ⟨"", []⟩))
      fun e v => { e with layers := v },
    .reading "paths" false (Value.readList (PathRule.shape.read ⟨[], [], ""⟩))
      fun e v => { e with paths := v },
    .reading "imports" false (Value.readList (ImportRule.shape.read ⟨[], ""⟩))
      fun e v => { e with imports := v }]

end Ecosystem

namespace Rulesets

def blank : Rulesets := ⟨[], []⟩

def shape : RecordShape Rulesets where
  fields := [
    .reading "priority" false Value.readStrings fun r v => { r with priority := v },
    .reading "ecosystems" false (Value.readList (Ecosystem.shape.read Ecosystem.blank))
      fun r v => { r with ecosystems := v }]

/-- Reads rulesets, which need not be consistent. -/
def ofText (text : List Char) : Except Toml.Error Rulesets := shape.ofText blank text

/-- How a text that gives no rulesets is reported. -/
def unreadable (e : Toml.Error) : Diagnostic where
  message := s!"invalid architecture config: {e.message}"
  code := "spec_hooks::arch::parse"

end Rulesets

end EditGuard.Layers
