import ClientGen.Render.Interface

/-!
# The test of an interface

A test class that calls every operation of a group once. The client it calls is set up with the
features that are asked for and with the family of JSON annotations of the models.
-/

namespace ClientGen.Render

open Client

/-- The imports of a test class beside those of its group. -/
def testImports (f : ScaffoldFeatures) : Lines :=
  ["import org.junit.Test;",
    "import org.junit.Before;",
    "import static org.junit.Assert.*;",
    "",
    "import javax.ws.rs.core.Response;",
    "import org.apache.cxf.feature.Feature;",
    "import org.apache.cxf.jaxrs.client.JAXRSClientFactory;",
    "import org.apache.cxf.jaxrs.client.ClientConfiguration;",
    "import org.apache.cxf.jaxrs.client.WebClient;",
    "import org.apache.cxf.jaxrs.ext.multipart.Attachment;"] ++
  linesIf (f.jsonMapping == .jackson)
    ["import com.fasterxml.jackson.jaxrs.json.JacksonJsonProvider;"] ++
  linesIf (f.jsonMapping == .jsonb)
    ["import org.apache.cxf.jaxrs.provider.jsrjsonb.JsonBProvider;"] ++
  linesIf f.gzip ["import org.apache.cxf.transport.common.gzip.GZIPFeature;"] ++
  linesIf f.logging ["import org.apache.cxf.ext.logging.LoggingFeature;"] ++
  ["",
    "import java.io.InputStream;",
    "import java.io.OutputStream;",
    "import java.util.ArrayList;",
    "import java.util.HashMap;",
    "import java.util.List;",
    "import java.util.Map;",
    "",
    ""]

/-- The method that sets up the client. -/
def testSetup (s : Setting) (classname : String) (f : ScaffoldFeatures) : Lines :=
  ["    @Before", "    public void setup() \x7b"] ++
  linesIf (f.jsonMapping == .jackson)
    ["        JacksonJsonProvider provider = new JacksonJsonProvider();"] ++
  linesIf (f.jsonMapping == .jsonb) ["        JsonBProvider provider = new JsonBProvider();"] ++
  ["        List<Object> providers = new ArrayList<Object>();",
    "        providers.add(provider);",
    "",
    "        List<Feature> features = new ArrayList<Feature>();"] ++
  linesIf f.gzip ["        features.add(new GZIPFeature());"] ++
  linesIf f.logging
    ["        LoggingFeature loggingFeature = new LoggingFeature();",
      "        loggingFeature.setPrettyLogging(true);",
      "        features.add(loggingFeature);"] ++
  ["",
    "        api = JAXRSClientFactory.create(\"http://localhost:8080" ++
      Text.trimCharEnd '/' s.basePath ++ "\", " ++ classname ++
      ".class, providers, features, null);",
    "        org.apache.cxf.jaxrs.client.Client client = WebClient.client(api);",
    "",
    "        ClientConfiguration config = WebClient.getConfig(client);",
    "        config.getHttpConduit().getClient().setReceiveTimeout(30000L);",
    "    \x7d"]

/-- The method that calls an operation. -/
def operationTest (o : Operation) : Lines :=
  let returned := o.renderedReturnType.getD "void"
  let call := "api." ++ o.nickname ++ "(" ++ commaed (o.parameters.map argumentName) ++ ");"
  ["", "    /**"] ++
  linesFor o.summary (fun s => ["     * " ++ s, "     *"]) ++
  ["     * @throws Exception if the call fails",
    "     */",
    "    @Test",
    "    public void " ++ o.nickname ++ "Test() throws Exception \x7b"] ++
  o.parameters.map (fun p => "        " ++ argumentType p ++ " " ++ argumentName p ++ " = null;") ++
  (if returned = "void" then ["        " ++ call]
    else ["        " ++ returned ++ " response = " ++ call,
      "        //assertNotNull(response);"]) ++
  ["    \x7d"]

/-- The test class of a group. -/
def groupTest (s : Setting) (g : Group) (imports : List String) (f : ScaffoldFeatures) : Lines :=
  packageHead s.apiPackage imports ++
  testImports f ++
  apiComment s ++
  ["/**",
    " * API tests for " ++ g.classname,
    " */",
    "public class " ++ g.classname ++ "Test \x7b",
    "",
    "    private " ++ g.classname ++ " api;",
    ""] ++
  testSetup s g.classname f ++
  g.operations.flatMap operationTest ++
  ["\x7d"]

end ClientGen.Render
