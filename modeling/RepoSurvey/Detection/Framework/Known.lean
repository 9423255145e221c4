import RepoSurvey.Detection.Framework.Profile
import RepoSurvey.Detection.Naming

/-!
# The frameworks that are known

The signs of each framework with their weights, and the search for a
framework by name. The end of a name is found before a final line feed too.
-/

namespace RepoSurvey.Detection.Framework

open Text (Pattern)

/-! ## Patterns of signs -/

/-- The text and nothing else. -/
def whole (s : String) : Pattern :=
  .sequence [.textStart, .literal s, .textEnd]

/-- The text at the beginning. -/
def opening (s : String) : Pattern :=
  .seq .textStart (.literal s)

/-- A file with one of the suffixes somewhere below a folder. -/
def nativeModule (folder : String) (suffixes : List String) : Pattern :=
  .sequence [.literal folder, .many Pattern.inLine, .oneOf suffixes, .textEnd]

/-! ## Languages -/

/-- TypeScript and JavaScript. -/
def tsLanguages : List String :=
  ["typescript", "javascript"]

/-- Python. -/
def pyLanguages : List String :=
  ["python"]

/-- Dart. -/
def dartLanguages : List String :=
  ["dart"]

/-! ## Profiles -/

/-- The profile of React. -/
def react : Profile where
  name := "React"
  threshold := 30
  languages := jsLanguages
  signs := [
    { id := "react_import", description := "React library import", weight := 8,
      target := .importedModule, pattern := whole "react", languages := jsLanguages },
    { id := "react_dom_import", description := "ReactDOM import", weight := 7,
      target := .importedModule, pattern := whole "react-dom", languages := jsLanguages },
    { id := "jsx_component", description := "JSX component function", weight := 9,
      target := .functionCall,
      pattern := .sequence [.textStart, .one isCapital, .many Text.isAsciiAlphanumeric, .textEnd],
      languages := jsLanguages, condition := some .jsx },
    { id := "use_state_hook", description := "useState React hook", weight := 8,
      target := .functionCall, pattern := .literal "useState", languages := jsLanguages,
      hook := some "useState" },
    { id := "use_effect_hook", description := "useEffect React hook", weight := 7,
      target := .functionCall, pattern := .literal "useEffect", languages := jsLanguages,
      hook := some "useEffect" },
    { id := "jsx_extension", description := "JSX/TSX file extension", weight := 6,
      target := .fileName, pattern := endingIn [".jsx", ".tsx"], languages := jsLanguages },
    { id := "jsx_syntax", description := "JSX tags", weight := 7, target := .content,
      pattern := .empty, languages := jsLanguages },
    { id := "react_component_class", description := "React class component", weight := 8,
      target := .className, pattern := endingIn ["Component"], languages := jsLanguages,
      condition := some .reactBase }]

/-- The profile of React Native. -/
def reactNative : Profile where
  name := "React Native"
  threshold := 25
  languages := jsLanguages
  signs := [
    { id := "react_native_import", description := "React Native import", weight := 9,
      target := .importedModule, pattern := whole "react-native", languages := jsLanguages },
    { id := "react_native_community_import", description := "React Native community packages",
      weight := 7, target := .importedModule, pattern := opening "@react-native-community/",
      languages := jsLanguages },
    { id := "react_native_async_storage", description := "AsyncStorage package", weight := 6,
      target := .importedModule, pattern := whole "@react-native-async-storage/async-storage",
      languages := jsLanguages },
    { id := "react_navigation_import", description := "React Navigation import", weight := 7,
      target := .importedModule, pattern := opening "@react-navigation/",
      languages := jsLanguages },
    { id := "expo_import", description := "Expo import", weight := 8, target := .importedModule,
      pattern := whole "expo", languages := jsLanguages },
    { id := "react_native_view_component", description := "View component", weight := 8,
      target := .functionCall, pattern := .literal "View", languages := jsLanguages,
      condition := some .reactNativeImport },
    { id := "react_native_text_component", description := "Text component", weight := 7,
      target := .functionCall, pattern := .literal "Text", languages := jsLanguages,
      condition := some .reactNativeImport },
    { id := "react_native_scrollview", description := "ScrollView component", weight := 6,
      target := .functionCall, pattern := .literal "ScrollView", languages := jsLanguages,
      condition := some .reactNativeImport },
    { id := "react_native_touchable", description := "Touchable components", weight := 6,
      target := .functionCall,
      pattern := .oneOf ["TouchableOpacity", "TouchableHighlight", "TouchableWithoutFeedback"],
      languages := jsLanguages, condition := some .reactNativeImport },
    { id := "react_native_flatlist", description := "FlatList component", weight := 6,
      target := .functionCall, pattern := .literal "FlatList", languages := jsLanguages,
      condition := some .reactNativeImport },
    { id := "react_native_platform_api", description := "Platform API", weight := 7,
      target := .functionCall, pattern := .oneOf ["Platform.OS", "Platform.select"],
      languages := jsLanguages },
    { id := "react_native_dimensions_api", description := "Dimensions API", weight := 6,
      target := .functionCall, pattern := .literal "Dimensions.get", languages := jsLanguages },
    { id := "react_native_stylesheet", description := "StyleSheet API", weight := 8,
      target := .functionCall, pattern := .oneOf ["StyleSheet.create", "StyleSheet.compose"],
      languages := jsLanguages },
    { id := "react_native_alert_api", description := "Alert API", weight := 5,
      target := .functionCall, pattern := .oneOf ["Alert.alert", "Alert.prompt"],
      languages := jsLanguages },
    { id := "react_native_animated_api", description := "Animated API", weight := 6,
      target := .functionCall,
      pattern := .oneOf ["Animated.Value", "Animated.timing", "Animated.spring"],
      languages := jsLanguages },
    { id := "app_json_config", description := "app.json configuration", weight := 7,
      target := .fileName, pattern := endingIn ["app.json"] },
    { id := "metro_config", description := "Metro bundler config", weight := 6, target := .fileName,
      pattern := endingIn ["metro.config.js"] },
    { id := "react_native_config_js", description := "react-native.config.js", weight := 5,
      target := .fileName, pattern := endingIn ["react-native.config.js"] },
    { id := "expo_app_config", description := "Expo app config", weight := 7, target := .fileName,
      pattern := endingIn ["app.json", "app.config.js", "app.config.ts"],
      condition := some .expoDependency },
    { id := "native_module_android", description := "Android native module", weight := 4,
      target := .fileName, pattern := nativeModule "android/" [".java", ".kt"] },
    { id := "native_module_ios", description := "iOS native module", weight := 4,
      target := .fileName, pattern := nativeModule "ios/" [".m", ".h", ".swift"] }]

/-- The profile of Django. -/
def django : Profile where
  name := "Django"
  threshold := 40
  languages := pyLanguages
  signs := [
    { id := "django_import", description := "Django import", weight := 9, target := .importedModule,
      pattern := opening "django", languages := pyLanguages },
    { id := "django_models_import", description := "Django models import", weight := 8,
      target := .importedModule, pattern := whole "django.db.models", languages := pyLanguages },
    { id := "django_views_import", description := "Django views import", weight := 7,
      target := .importedModule, pattern := opening "django.views", languages := pyLanguages },
    { id := "models_py_file", description := "models.py module", weight := 8, target := .fileName,
      pattern := endingIn ["models.py"], languages := pyLanguages },
    { id := "views_py_file", description := "views.py module", weight := 7, target := .fileName,
      pattern := endingIn ["views.py"], languages := pyLanguages },
    { id := "urls_py_file", description := "urls.py module", weight := 7, target := .fileName,
      pattern := endingIn ["urls.py"], languages := pyLanguages },
    { id := "django_model_class", description := "Django model class", weight := 8,
      target := .className, pattern := endingIn ["Model"], languages := pyLanguages,
      condition := some .modelBase },
    { id := "django_admin_register", description := "admin.register usage", weight := 6,
      target := .functionCall, pattern := .literal "admin.register", languages := pyLanguages },
    { id := "django_settings", description := "settings.py module", weight := 7,
      target := .fileName, pattern := endingIn ["settings.py"], languages := pyLanguages },
    { id := "django_manage_py", description := "manage.py script", weight := 9, target := .fileName,
      pattern := whole "manage.py", languages := pyLanguages }]

/-- The profile of NestJS. -/
def nest : Profile where
  name := "NestJS"
  threshold := 40
  languages := tsLanguages
  signs := [
    { id := "nestjs_import", description := "NestJS package import", weight := 9,
      target := .importedModule, pattern := opening "@nestjs/", languages := tsLanguages },
    { id := "controller_decorator", description := "Controller decorator", weight := 8,
      target := .decorator, pattern := .literal "Controller", languages := tsLanguages },
    { id := "injectable_decorator", description := "Injectable decorator", weight := 7,
      target := .decorator, pattern := .literal "Injectable", languages := tsLanguages },
    { id := "module_decorator", description := "Module decorator", weight := 8,
      target := .decorator, pattern := .literal "Module", languages := tsLanguages },
    { id := "get_decorator", description := "Get route decorator", weight := 7,
      target := .decorator, pattern := .literal "Get", languages := tsLanguages },
    { id := "post_decorator", description := "Post route decorator", weight := 7,
      target := .decorator, pattern := .literal "Post", languages := tsLanguages },
    { id := "nest_factory", description := "NestFactory bootstrap", weight := 8,
      target := .functionCall, pattern := .literal "NestFactory.create", languages := tsLanguages },
    { id := "nestjs_main_file", description := "main.ts entry point", weight := 6,
      target := .fileName, pattern := endingIn ["main.ts"], languages := ["typescript"] }]

/-- The profile of Flutter. -/
def flutter : Profile where
  name := "Flutter"
  threshold := 40
  languages := dartLanguages
  signs := [
    { id := "flutter_import", description := "Flutter package import", weight := 9,
      target := .importedModule, pattern := opening "package:flutter/",
      languages := dartLanguages },
    { id := "material_import", description := "Material library import", weight := 7,
      target := .importedModule, pattern := whole "package:flutter/material.dart",
      languages := dartLanguages },
    { id := "cupertino_import", description := "Cupertino library import", weight := 6,
      target := .importedModule, pattern := whole "package:flutter/cupertino.dart",
      languages := dartLanguages },
    { id := "stateless_widget", description := "StatelessWidget subclass", weight := 8,
      target := .className, pattern := endingIn ["StatelessWidget"], languages := dartLanguages,
      condition := some .anyBase },
    { id := "stateful_widget", description := "StatefulWidget subclass", weight := 8,
      target := .className, pattern := endingIn ["StatefulWidget"], languages := dartLanguages,
      condition := some .anyBase },
    { id := "widget_build_method", description := "Widget build method", weight := 7,
      target := .functionCall,
      pattern := .sequence [.literal "build", .many Pattern.inLine, .literal "Widget"],
      languages := dartLanguages },
    { id := "flutter_pubspec", description := "pubspec.yaml", weight := 8, target := .fileName,
      pattern := endingIn ["pubspec.yaml"], condition := some .flutterDependency },
    { id := "flutter_main_dart", description := "main.dart entry point", weight := 6,
      target := .fileName, pattern := endingIn ["main.dart"], languages := dartLanguages }]

/-- The profile of Express. -/
def express : Profile where
  name := "Express"
  threshold := 30
  languages := jsLanguages
  signs := [
    { id := "express_import", description := "Express import", weight := 9,
      target := .importedModule, pattern := whole "express", languages := jsLanguages },
    { id := "express_app_creation", description := "express() app creation", weight := 8,
      target := .functionCall, pattern := .literal "express()", languages := jsLanguages },
    { id := "express_get_route", description := "GET route registration", weight := 7,
      target := .functionCall, pattern := .literal ".get(", languages := jsLanguages },
    { id := "express_post_route", description := "POST route registration", weight := 7,
      target := .functionCall, pattern := .literal ".post(", languages := jsLanguages },
    { id := "express_listen", description := "Server listen call", weight := 8,
      target := .functionCall, pattern := .literal ".listen(", languages := jsLanguages },
    { id := "express_router", description := "Express router import", weight := 6,
      target := .importedModule, pattern := whole "express", languages := jsLanguages,
      condition := some .routerImport },
    { id := "express_middleware", description := "Middleware registration", weight := 5,
      target := .functionCall, pattern := .literal ".use(", languages := jsLanguages }]

/-- Every profile, in the order in which frameworks are looked for. -/
def profiles : List Profile :=
  [react, reactNative, django, nest, flutter, express]

/-- The profile of a framework, whatever the case of its name. -/
def profile? (name : String) : Option Profile :=
  profiles.find? fun p => Text.lower p.name == Text.lower name

end RepoSurvey.Detection.Framework
