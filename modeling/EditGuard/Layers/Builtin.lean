import EditGuard.Layers.Ruleset

/-! # The built-in rulesets -/

namespace EditGuard.Layers.Builtin

def java : Ecosystem where
  name := "java"
  title := "DDD layering"
  rule := "Controller → Application → Domain ← Gateway, Mapper(Gateway)"
  importSyntax := .java
  layers := [
    ⟨"Controller", ["Application"]⟩,
    ⟨"Application", ["Domain"]⟩,
    ⟨"Domain", []⟩,
    ⟨"Gateway", ["Domain"]⟩,
    ⟨"Mapper", ["Domain"]⟩]
  paths := [
    ⟨["java"], ["/controller/"], "Controller"⟩,
    ⟨["java"], ["/application/", "/appservice/"], "Application"⟩,
    ⟨["java"], ["/domain/", "/entity/"], "Domain"⟩,
    ⟨["java"], ["/gateway/", "/infra/"], "Gateway"⟩,
    ⟨["java"], ["/mapper/", "/dao/"], "Mapper"⟩]
  imports := [
    ⟨[".controller."], "Controller"⟩,
    ⟨[".application.", ".appservice."], "Application"⟩,
    ⟨[".domain.", ".entity."], "Domain"⟩,
    ⟨[".gateway.", ".infra."], "Gateway"⟩,
    ⟨[".mapper.", ".dao."], "Mapper"⟩]

/-- Views, view models and services of a Swift application. Imports name modules, so no import
places itself in a view. -/
def swift : Ecosystem where
  name := "swift"
  title := "MVVM layering"
  rule := "View → ViewModel → Service → Gateway → Network"
  importSyntax := .swift
  layers := [
    ⟨"View", ["ViewModel"]⟩,
    ⟨"ViewModel", ["Service"]⟩,
    ⟨"Service", ["Gateway"]⟩,
    ⟨"Gateway", ["Network"]⟩,
    ⟨"Network", []⟩]
  paths := [
    ⟨["swift"], ["/views/", "/view/"], "View"⟩,
    ⟨["swift"], ["/viewmodels/", "/viewmodel/"], "ViewModel"⟩,
    ⟨["swift"], ["/services/", "/service/"], "Service"⟩,
    ⟨["swift"], ["/gateways/", "/gateway/"], "Gateway"⟩,
    ⟨["swift"], ["/network/", "/api/"], "Network"⟩]
  imports := [
    ⟨["viewmodel"], "ViewModel"⟩,
    ⟨["service"], "Service"⟩,
    ⟨["gateway"], "Gateway"⟩,
    ⟨["network", "api"], "Network"⟩]

/-- Layers of a Vue frontend. Single-file components are views wherever they are. -/
def vue : Ecosystem where
  name := "vue"
  title := "Vue 3 frontend layering"
  rule := "View → Composable → Service → API → Request"
  importSyntax := .esModule
  layers := [
    ⟨"View", ["Composable"]⟩,
    ⟨"Composable", ["Service"]⟩,
    ⟨"Service", ["API"]⟩,
    ⟨"API", ["Request"]⟩,
    ⟨"Request", []⟩]
  paths := [
    ⟨["vue"], [], "View"⟩,
    ⟨["ts", "tsx"], ["/views/", "/view/"], "View"⟩,
    ⟨["ts", "tsx"], ["/composables/", "/composable/"], "Composable"⟩,
    ⟨["ts", "tsx"], ["/services/", "/service/"], "Service"⟩,
    ⟨["ts", "tsx"], ["/api/"], "API"⟩,
    ⟨["ts", "tsx"], ["/utils/request"], "Request"⟩]
  imports := [
    ⟨["composable"], "Composable"⟩,
    ⟨["service"], "Service"⟩,
    ⟨["api/"], "API"⟩,
    ⟨["request"], "Request"⟩]

/-- Layers of a TypeScript service. Its rule for services is behind the same one of `vue`. -/
def typescript : Ecosystem where
  name := "typescript"
  title := "TypeScript layering"
  rule := "Controller → Service → Repository → Model"
  importSyntax := .esModule
  layers := [
    ⟨"Controller", ["Service"]⟩,
    ⟨"Service", ["Repository", "Model"]⟩,
    ⟨"Repository", ["Model"]⟩,
    ⟨"Model", []⟩]
  paths := [
    ⟨["ts", "tsx"], ["/controller/"], "Controller"⟩,
    ⟨["ts", "tsx"], ["/service/"], "Service"⟩,
    ⟨["ts", "tsx"], ["/repository/"], "Repository"⟩,
    ⟨["ts", "tsx"], ["/model/"], "Model"⟩]
  imports := [
    ⟨["controller"], "Controller"⟩,
    ⟨["service"], "Service"⟩,
    ⟨["repository"], "Repository"⟩,
    ⟨["model"], "Model"⟩]

def rulesets : Rulesets where
  priority := ["java", "swift", "vue", "typescript"]
  ecosystems := [java, swift, vue, typescript]

end EditGuard.Layers.Builtin
