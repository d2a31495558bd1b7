/-!
# Labels

The label keys on objects that a pass writes, and the values among them that are fixed.
-/

namespace InferenceReconciler.Labels

def appName : String := "app.kubernetes.io/name"

def component : String := "app.kubernetes.io/component"

def managedBy : String := "app.kubernetes.io/managed-by"

def manager : String := "aim-controller"

def template : String := "aim.eai.amd.com/template"

def model : String := "aim.eai.amd.com/model"

def service : String := "aim.eai.amd.com/service"

def metric : String := "aim.eai.amd.com/metric"

def precision : String := "aim.eai.amd.com/precision"

def origin : String := "aim.eai.amd.com/origin"

def derivedTemplate : String := "aim.eai.amd.com/derived-template"

def customModel : String := "aim.eai.amd.com/custom-model"

def cacheType : String := "aim.eai.amd.com/cache.type"

/-- The origin of a template made from the overrides of a service. -/
def originDerived : String := "derived"

def originAutoGenerated : String := "auto-generated"

/-- The label that ties a pod to its runtime. -/
def runtimeOfPod : String := "serving.kserve.io/inferenceservice"

end InferenceReconciler.Labels
