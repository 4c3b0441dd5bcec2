import ClientGen.Render.Context
import ClientGen.Render.Lines

/-!
# Build files

The files with which the generated client is built: those of Gradle, the project file of Maven, and
the list of files that are not kept under version control.
-/

namespace ClientGen.Render

/-! ## Gradle -/

/-- The build file of Gradle. -/
def gradleBuild (s : Setting) (beanValidation : Bool) : Lines :=
  ["apply plugin: 'idea'",
    "apply plugin: 'eclipse'",
    "apply plugin: 'java'",
    "apply plugin: 'maven'",
    "",
    "group = '" ++ s.groupId.asText ++ "'",
    "version = '" ++ s.artifactVersion.asText ++ "'",
    "",
    "sourceCompatibility = JavaVersion.VERSION_1_8",
    "targetCompatibility = JavaVersion.VERSION_1_8",
    "",
    "repositories \x7b",
    "    jcenter()",
    "\x7d",
    "",
    "sourceSets \x7b",
    "    main.java.srcDirs = ['" ++ s.sourceFolder.asText ++ "']",
    "\x7d",
    "",
    "ext \x7b",
    "    swagger_annotations_version = \"1.5.18\"",
    "    jackson_version = \"2.9.1\"",
    "    junit_version = \"4.12\"",
    "\x7d",
    "",
    "dependencies \x7b",
    "    compile \"io.swagger:swagger-annotations:$swagger_annotations_version\"",
    "    compile \"com.fasterxml.jackson.core:jackson-core:$jackson_version\"",
    "    compile \"com.fasterxml.jackson.core:jackson-annotations:$jackson_version\"",
    "    compile \"com.fasterxml.jackson.core:jackson-databind:$jackson_version\""] ++
  linesIf beanValidation ["    compile \"javax.validation:validation-api:1.1.0.Final\""] ++
  ["    testCompile \"junit:junit:$junit_version\"", "\x7d"]

/-- The settings of Gradle. -/
def gradleSettings (s : Setting) : Lines :=
  ["rootProject.name = \"" ++ s.artifactId.asText ++ "\""]

/-! ## Version control -/

/-- What is not kept under version control. -/
def ignoreList : Lines := [
  "*.class",
  "",
  "# Mobile Tools for Java (J2ME)",
  ".mtj.tmp/",
  "",
  "# Package Files #",
  "*.jar",
  "*.war",
  "*.ear",
  "",
  "# exclude jar for gradle wrapper",
  "!gradle/wrapper/*.jar",
  "",
  "# virtual machine crash logs, see " ++
    "http://www.java.com/en/download/help/error_hotspot.xml",
  "hs_err_pid*",
  "",
  "# build files",
  "**/target",
  "target",
  ".gradle",
  "build"]

/-! ## Maven -/

/-- A dependency of a Maven project, where the version is a property of the project. -/
def dependency (groupId artifactId version scope : String) : Lines := [
  "    <dependency>",
  "      <groupId>" ++ groupId ++ "</groupId>",
  "      <artifactId>" ++ artifactId ++ "</artifactId>",
  "      <version>$\x7b" ++ version ++ "\x7d</version>",
  "      <scope>" ++ scope ++ "</scope>",
  "    </dependency>"]

/-- The head of a Maven project and its build steps. -/
def mavenHead (s : Setting) : Lines :=
  ["<project xmlns=\"http://maven.apache.org/POM/4.0.0\" " ++
      "xmlns:xsi=\"http://www.w3.org/2001/XMLSchema-instance\" " ++
      "xsi:schemaLocation=\"http://maven.apache.org/POM/4.0.0 " ++
      "http://maven.apache.org/maven-v4_0_0.xsd\">",
    "  <modelVersion>4.0.0</modelVersion>",
    "  <groupId>" ++ s.groupId.asText ++ "</groupId>",
    "  <artifactId>" ++ s.artifactId.asText ++ "</artifactId>",
    "  <packaging>jar</packaging>",
    "  <name>" ++ s.artifactId.asText ++ "</name>"] ++
  linesIf (s.appDescription != "") ["  <description>" ++ s.appDescription ++ "</description>"] ++
  ["  <version>" ++ s.artifactVersion.asText ++ "</version>",
    "  <build>",
    "    <sourceDirectory>src/main/java</sourceDirectory>",
    "    <plugins>",
    "      <plugin>",
    "        <artifactId>maven-failsafe-plugin</artifactId>",
    "        <version>2.6</version>",
    "        <executions>",
    "          <execution>",
    "            <goals>",
    "              <goal>integration-test</goal>",
    "              <goal>verify</goal>",
    "            </goals>",
    "          </execution>",
    "        </executions>",
    "      </plugin>",
    "      <plugin>",
    "        <groupId>org.codehaus.mojo</groupId>",
    "        <artifactId>build-helper-maven-plugin</artifactId>",
    "        <version>1.9.1</version>",
    "        <executions>",
    "          <execution>",
    "            <id>add-source</id>",
    "            <phase>generate-sources</phase>",
    "            <goals>",
    "              <goal>add-source</goal>",
    "            </goals>",
    "            <configuration>",
    "              <sources>",
    "                <source>" ++ s.sourceFolder.asText ++ "</source>",
    "              </sources>",
    "            </configuration>",
    "          </execution>",
    "        </executions>",
    "      </plugin>",
    "    </plugins>",
    "  </build>"]

/-- The dependencies of a Maven project. -/
def mavenDependencies (mapping : JsonMapping) (logging beanValidation : Bool) : Lines :=
  ["  <dependencies>",
    "    <dependency>",
    "      <groupId>io.swagger</groupId>",
    "      <artifactId>swagger-jaxrs</artifactId>",
    "      <scope>compile</scope>",
    "      <version>$\x7bswagger-core-version\x7d</version>",
    "    </dependency>"] ++
  dependency "ch.qos.logback" "logback-classic" "logback-version" "compile" ++
  dependency "ch.qos.logback" "logback-core" "logback-version" "compile" ++
  dependency "junit" "junit" "junit-version" "test" ++
  ["    <!-- CXF Client -->"] ++
  dependency "org.apache.cxf" "cxf-rt-rs-client" "cxf-version" "test" ++
  dependency "org.apache.cxf" "cxf-rt-frontend-jaxrs" "cxf-version" "compile" ++
  dependency "org.apache.cxf" "cxf-rt-rs-service-description" "cxf-version" "compile" ++
  linesIf logging (dependency "org.apache.cxf" "cxf-rt-features-logging" "cxf-version" "test") ++
  linesIf (mapping == .jackson) (dependency "com.fasterxml.jackson.jaxrs"
    "jackson-jaxrs-json-provider" "jackson-jaxrs-version" "compile") ++
  linesIf (mapping == .jsonb)
    (dependency "org.apache.cxf" "cxf-rt-rs-extension-providers" "cxf-version" "compile" ++
      dependency "javax.json.bind" "javax.json.bind-api" "javax.json.bind-version" "compile" ++
      dependency "org.eclipse" "yasson" "yasson-version" "runtime") ++
  dependency "joda-time" "joda-time" "joda-time-version" "compile" ++
  linesIf beanValidation
    (dependency "javax.validation" "validation-api" "beanvalidation-version" "provided") ++
  ["  </dependencies>"]

/-- The repositories and properties of a Maven project, and its end. -/
def mavenTail (mapping : JsonMapping) (beanValidation : Bool) : Lines :=
  ["  <repositories>",
    "    <repository>",
    "      <id>sonatype-snapshots</id>",
    "      <url>https://oss.sonatype.org/content/repositories/snapshots</url>",
    "      <snapshots>",
    "        <enabled>true</enabled>",
    "      </snapshots>",
    "    </repository>",
    "  </repositories>",
    "  <properties>",
    "    <java.version>1.8</java.version>",
    "    <maven.compiler.source>$\x7bjava.version\x7d</maven.compiler.source>",
    "    <maven.compiler.target>$\x7bjava.version\x7d</maven.compiler.target>",
    "    <swagger-core-version>1.5.18</swagger-core-version>",
    "    <junit-version>4.12</junit-version>",
    "    <logback-version>1.1.7</logback-version>",
    "    <cxf-version>3.2.1</cxf-version>",
    "    <joda-time-version>2.9.9</joda-time-version>"] ++
  linesIf (mapping == .jackson) ["    <jackson-jaxrs-version>2.9.1</jackson-jaxrs-version>"] ++
  linesIf (mapping == .jsonb)
    ["    <javax.json.bind-version>1.0</javax.json.bind-version>",
      "    <yasson-version>1.0</yasson-version>"] ++
  linesIf beanValidation ["    <beanvalidation-version>1.1.0.Final</beanvalidation-version>"] ++
  ["    <project.build.sourceEncoding>UTF-8</project.build.sourceEncoding>",
    "  </properties>",
    "</project>"]

/-- The project file of Maven. -/
def mavenProject (s : Setting) (mapping : JsonMapping) (logging beanValidation : Bool) : Lines :=
  mavenHead s ++ mavenDependencies mapping logging beanValidation ++
    mavenTail mapping beanValidation

end ClientGen.Render
