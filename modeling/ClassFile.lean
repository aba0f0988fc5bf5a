import ClassFile.ClassName
import ClassFile.Descriptor.FieldType
import ClassFile.Descriptor.MethodDescriptor
import ClassFile.Descriptor.Reader
import ClassFile.Descriptor.Order
import ClassFile.Flags
import ClassFile.Access
import ClassFile.Annotation.Binary
import ClassFile.Annotation.Basic
import ClassFile.Code
import ClassFile.Method
import ClassFile.Class
import ClassFile.Normalize.Classification
import ClassFile.Normalize.Anomaly
import ClassFile.Normalize.Event
import ClassFile.Normalize.Report
import ClassFile.Normalize.Aligner
import ClassFile.Normalize.Stripper
import ClassFile.Normalize.Config
import ClassFile.Normalize.Pipeline
import ClassFile.Normalize.Batch
import ClassFile.Proofs.Descriptor.Exactness
import ClassFile.Proofs.Descriptor.PrefixCode
import ClassFile.Proofs.Descriptor.ParameterTexts
import ClassFile.Proofs.Descriptor.TotalOrder
import ClassFile.Proofs.Annotation.ValueEquality
import ClassFile.Proofs.Normalize.Alignment
import ClassFile.Proofs.Normalize.Stages
import ClassFile.Proofs.Normalize.CanonicalForm
import ClassFile.Proofs.Normalize.TrimOnce
import ClassFile.Proofs.Normalize.Anomalies
import ClassFile.Proofs.Normalize.NormalForm
import ClassFile.Proofs.Normalize.Schedules
import ClassFile.Proofs.Normalize.Remapping
import ClassFile.Proofs.Normalize.Verbosity
import ClassFile.Proofs.Normalize.Warnings
import ClassFile.Proofs.Normalize.Frame
import ClassFile.Proofs.Normalize.ConstructorEffect
import ClassFile.Proofs.Normalize.OwnRecord
import ClassFile.Proofs.Normalize.ChangeLog
import ClassFile.Proofs.Normalize.Bounds
