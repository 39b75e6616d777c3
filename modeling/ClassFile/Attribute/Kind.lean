namespace ClassFile.Attribute

inductive Kind where
  | constantValue | code | stackMapTable | exceptions | innerClasses | enclosingMethod | synthetic
  | signature | sourceFile | sourceDebugExtension | lineNumberTable | localVariableTable
  | localVariableTypeTable | deprecated | runtimeVisibleAnnotations | runtimeInvisibleAnnotations
  | runtimeVisibleParameterAnnotations | runtimeInvisibleParameterAnnotations
  | runtimeVisibleTypeAnnotations | runtimeInvisibleTypeAnnotations | annotationDefault
  | bootstrapMethods | methodParameters | moduleInfo | modulePackages | moduleMainClass | nestHost
  | nestMembers | record | permittedSubclasses | unknown
deriving DecidableEq

namespace Kind

def all : List Kind :=
  [constantValue, code, stackMapTable, exceptions, innerClasses, enclosingMethod, synthetic,
    signature, sourceFile, sourceDebugExtension, lineNumberTable, localVariableTable,
    localVariableTypeTable, deprecated, runtimeVisibleAnnotations, runtimeInvisibleAnnotations,
    runtimeVisibleParameterAnnotations, runtimeInvisibleParameterAnnotations,
    runtimeVisibleTypeAnnotations, runtimeInvisibleTypeAnnotations, annotationDefault,
    bootstrapMethods, methodParameters, moduleInfo, modulePackages, moduleMainClass, nestHost,
    nestMembers, record, permittedSubclasses, unknown]

def name : Kind → String
  | constantValue => "ConstantValue"
  | code => "Code"
  | stackMapTable => "StackMapTable"
  | exceptions => "Exceptions"
  | innerClasses => "InnerClasses"
  | enclosingMethod => "EnclosingMethod"
  | synthetic => "Synthetic"
  | signature => "Signature"
  | sourceFile => "SourceFile"
  | sourceDebugExtension => "SourceDebugExtension"
  | lineNumberTable => "LineNumberTable"
  | localVariableTable => "LocalVariableTable"
  | localVariableTypeTable => "LocalVariableTypeTable"
  | deprecated => "Deprecated"
  | runtimeVisibleAnnotations => "RuntimeVisibleAnnotations"
  | runtimeInvisibleAnnotations => "RuntimeInvisibleAnnotations"
  | runtimeVisibleParameterAnnotations => "RuntimeVisibleParameterAnnotations"
  | runtimeInvisibleParameterAnnotations => "RuntimeInvisibleParameterAnnotations"
  | runtimeVisibleTypeAnnotations => "RuntimeVisibleTypeAnnotations"
  | runtimeInvisibleTypeAnnotations => "RuntimeInvisibleTypeAnnotations"
  | annotationDefault => "AnnotationDefault"
  | bootstrapMethods => "BootstrapMethods"
  | methodParameters => "MethodParameters"
  | moduleInfo => "Module"
  | modulePackages => "ModulePackages"
  | moduleMainClass => "ModuleMainClass"
  | nestHost => "NestHost"
  | nestMembers => "NestMembers"
  | record => "Record"
  | permittedSubclasses => "PermittedSubclasses"
  | unknown => "Unknown"

def ofName? (name : String) : Option Kind :=
  all.find? fun kind => kind.name = name

def ofName (name : String) : Kind :=
  (ofName? name).getD unknown

def notFound : String := "Matching variant not found"

def onMethods : Kind → Bool
  | code | exceptions | synthetic | signature | deprecated | runtimeVisibleAnnotations
  | runtimeInvisibleAnnotations | runtimeVisibleParameterAnnotations
  | runtimeInvisibleParameterAnnotations | runtimeVisibleTypeAnnotations
  | runtimeInvisibleTypeAnnotations | annotationDefault | methodParameters => true
  | _ => false

end Kind

end ClassFile.Attribute
